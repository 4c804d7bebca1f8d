import Packrat.Combinator.Bounds
import Packrat.Reference

/-!
# Repetition

Repetitions take as many matches as they can and never give one back.  One that matches
without consuming anything stops there, since it would match the same nothing forever.
The memory's turn counts: for a repetition the values, for a separated list the calls,
so that every second call is for a separator.
-/

namespace Packrat

variable {ω ρ : Type}

/-- How a repetition ends after `count` values.  If the last attempt failed, `failed` is
where. -/
def Bounds.finish (bounds : Bounds) (description : String) (count : Nat)
    (values : List (Value ω)) (span : Span) (failed : Option Span) : Match (Value ω) :=
  if bounds.allows count then .success span (.list values.reverse)
  else
    let reached := match failed with
      | some failed => max failed.stop span.stop
      | none => span.stop
    .failure
      ("expected " ++ bounds.inWords ++ " of " ++ description ++ ", found " ++ count.repr)
      (.point reached)

/-- Matches once more, if the bounds let it. -/
def Matcher.nextRound (bounds : Bounds) (child : Child) (memory : Memory ω) : Step ω ρ :=
  if bounds.full memory.turn then
    .done (bounds.finish child.description memory.turn memory.values memory.span none)
  else .call child.id memory.span.stop memory

/-- Matches a node as many times as the bounds allow. -/
def Matcher.repeated (bounds : Bounds) (child : Child) : Matcher ω ρ :=
  { start := fun _ position => nextRound bounds child (.start position)
    resume := fun _ _ memory m =>
      match m with
      | .success next value =>
        let memory : Memory ω :=
          ⟨memory.turn + 1, memory.span.join next, value :: memory.values, none⟩
        if next.isEmpty then
          .done (bounds.finish child.description memory.turn memory.values memory.span none)
        else nextRound bounds child memory
      | .failure _ failed =>
        .done
          (bounds.finish child.description memory.turn memory.values memory.span (some failed)) }

/-- How many values a separated list has after some calls: every second call is for a
separator. -/
def valuesAfter (calls : Nat) : Nat := (calls + 1) / 2

/-- Goes on with a separator, if the bounds let another item follow. -/
def Matcher.nextSeparator (bounds : Bounds) (item separator : Child) (memory : Memory ω) :
    Step ω ρ :=
  let count := valuesAfter memory.turn
  if bounds.full count then
    .done (bounds.finish item.description count memory.values memory.span none)
  else .call separator.id memory.span.stop memory

/-- Matches an item as many times as the bounds allow, with a separator between each
two.  A separator that no item follows is not part of the match. -/
def Matcher.separated (bounds : Bounds) (item separator : Child) : Matcher ω ρ :=
  { start := fun _ position =>
      if bounds.full 0 then
        .done (bounds.finish item.description 0 [] (.point position) none)
      else .call item.id position (.start position)
    resume := fun _ _ memory m =>
      let count := valuesAfter memory.turn
      let stop (failed : Option Span) : Step ω ρ :=
        .done (bounds.finish item.description count memory.values memory.span failed)
      if memory.turn % 2 = 1 then
        match m with
        | .success between _ =>
          .call item.id between.stop { memory with turn := memory.turn + 1, aside := some m }
        | .failure .. => stop none
      else
        match memory.aside, m with
        | _, .failure _ failed => stop (some failed)
        | none, .success span value =>
          nextSeparator bounds item separator ⟨memory.turn + 1, span, [value], none⟩
        | some between, .success next value =>
          let values := value :: memory.values
          let span := memory.span.join next
          if between.span.isEmpty && next.isEmpty then
            .done (bounds.finish item.description (count + 1) values span none)
          else nextSeparator bounds item separator ⟨memory.turn + 1, span, values, none⟩ }

namespace Reference

/-- A parser as many times as the bounds allow, giving the list of its values. -/
def repeated (bounds : Bounds) (body : Reference ω ρ) : Reference ω ρ :=
  unary ("repeat" ++ bounds.suffix) true (.followedBy bounds.suffix) (.repeated bounds) body

/-- A parser any number of times. -/
def many (body : Reference ω ρ) : Reference ω ρ := repeated .anyNumber body

/-- A parser once or more. -/
def many1 (body : Reference ω ρ) : Reference ω ρ := repeated .atLeastOnce body

/-- A parser as many times as the bounds allow with a separator between each two, giving
the list of the parser's values. -/
def separated (bounds : Bounds) (item separator : Reference ω ρ) : Reference ω ρ :=
  binary ("separated" ++ bounds.suffix) true .named (.separated bounds) item separator

end Reference

end Packrat
