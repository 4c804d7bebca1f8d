import Packrat.Text.CharSet

/-!
# Widths of single characters

The characters that take no column of a terminal and those that take two.  All others
take one.
-/

namespace Packrat

/-- Characters that take no column: marks, joiners and what is not shown. -/
def zeroWidth : CharSet := .ofText
  "AD AE 300 370 483 48A 591 5BE 5BF 5C0 5C1 5C3 5C4 5C6 5C7 5C8 605 606 610 61B 61C 61D
   64B 660 670 671 6D6 6DD 6DF 6E5 6E7 6E9 6EA 6EE 70F 710 711 712 730 74B 7A6 7B1 7EB 7F4
   7FD 7FE 816 81A 81B 824 825 828 829 82E 859 85C 890 892 897 8A0 8CA 903 93A 93B 93C 93D
   941 949 94D 94E 951 958 962 964 981 982 9BC 9BD 9BE 9BF 9C1 9C5 9CD 9CE 9D7 9D8 9E2 9E4
   9FE 9FF A01 A03 A3C A3D A41 A43 A47 A49 A4B A4E A51 A52 A70 A72 A75 A76 A81 A83 ABC ABD
   AC1 AC6 AC7 AC9 ACD ACE AE2 AE4 AFA B00 B01 B02 B3C B3D B3E B40 B41 B45 B4D B4E B55 B58
   B62 B64 B82 B83 BBE BBF BC0 BC1 BCD BCE BD7 BD8 C00 C01 C04 C05 C3C C3D C3E C41 C46 C49
   C4A C4E C55 C57 C62 C64 C81 C82 CBC CBD CBF CC1 CC2 CC3 CC6 CC9 CCA CCE CD5 CD7 CE2 CE4
   D00 D02 D3B D3D D3E D3F D41 D45 D4D D4E D57 D58 D62 D64 D81 D82 DCA DCB DCF DD0 DD2 DD5
   DD6 DD7 DDF DE0 E31 E32 E34 E3B E47 E4F EB1 EB2 EB4 EBD EC8 ECF F18 F1A F35 F36 F37 F38
   F39 F3A F71 F7F F80 F85 F86 F88 F8D F98 F99 FBD FC6 FC7 102D 1031 1032 1038 1039 103B
   103D 103F 1058 105A 105E 1061 1071 1075 1082 1083 1085 1087 108D 108E 109D 109E 1160
   1200 135D 1360 1712 1715 1732 1734 1752 1754 1772 1774 17B4 17B6 17B7 17BE 17C6 17C7
   17C9 17D4 17DD 17DE 180B 1810 1885 1887 18A9 18AA 1920 1923 1927 1929 1932 1933 1939
   193C 1A17 1A19 1A1B 1A1C 1A56 1A57 1A58 1A5F 1A60 1A61 1A62 1A63 1A65 1A6D 1A73 1A7D
   1A7F 1A80 1AB0 1ACF 1B00 1B04 1B34 1B3E 1B42 1B44 1B6B 1B74 1B80 1B82 1BA2 1BA6 1BA8
   1BAA 1BAB 1BAE 1BE6 1BE7 1BE8 1BEA 1BED 1BEE 1BEF 1BF2 1C2C 1C34 1C36 1C38 1CD0 1CD3
   1CD4 1CE1 1CE2 1CE9 1CED 1CEE 1CF4 1CF5 1CF8 1CFA 1DC0 1E00 200B 2010 202A 202F 2060
   2070 20D0 20F1 2CEF 2CF2 2D7F 2D80 2DE0 2E00 302A 3030 3099 309B 3164 3165 A66F A673
   A674 A67E A69E A6A0 A6F0 A6F2 A802 A803 A806 A807 A80B A80C A825 A827 A82C A82D A8C4
   A8C6 A8E0 A8F2 A8FA A8FB A8FF A900 A926 A92E A947 A952 A980 A983 A9B3 A9B4 A9B6 A9BA
   A9BC A9BE A9E5 A9E6 AA29 AA2F AA31 AA33 AA35 AA37 AA43 AA44 AA4C AA4D AA7C AA7D AAB0
   AAB1 AAB2 AAB5 AAB7 AAB9 AABE AAC0 AAC1 AAC2 AAEC AAEE AAF6 AAF7 ABE5 ABE6 ABE8 ABE9
   ABED ABEE D7B0 D7C7 D7CB D7FC FB1E FB1F FE00 FE10 FE20 FE30 FEFF FF00 FF9E FFA1 FFF0
   FFF9 101FD 101FE 102E0 102E1 10376 1037B 10A01 10A04 10A05 10A07 10A0C 10A10 10A38 10A3B
   10A3F 10A40 10AE5 10AE7 10D24 10D28 10D69 10D6E 10EAB 10EAD 10EFC 10F00 10F46 10F51
   10F82 10F86 11001 11002 11038 11047 11070 11071 11073 11075 1107F 11082 110B3 110B7
   110B9 110BB 110C2 110C3 11100 11103 11127 1112C 1112D 11135 11173 11174 11180 11182
   111B6 111BF 111C9 111CD 111CF 111D0 1122F 11232 11234 11235 11236 11238 1123E 1123F
   11241 11242 112DF 112E0 112E3 112EB 11300 11302 1133B 1133D 1133E 1133F 11340 11341
   11357 11358 11366 1136D 11370 11375 113BB 113C1 113CE 113CF 113D0 113D1 113D2 113D3
   113E1 113E3 11438 11440 11442 11445 11446 11447 1145E 1145F 114B0 114B1 114B3 114B9
   114BA 114BB 114BD 114BE 114BF 114C1 114C2 114C4 115AF 115B0 115B2 115B6 115BC 115BE
   115BF 115C1 115DC 115DE 11633 1163B 1163D 1163E 1163F 11641 116AB 116AC 116AD 116AE
   116B0 116B6 116B7 116B8 1171D 11720 11722 11726 11727 1172C 1182F 11838 11839 1183B
   11930 11931 1193B 1193D 1193E 1193F 11943 11944 119D4 119D8 119DA 119DC 119E0 119E1
   11A01 11A0B 11A33 11A39 11A3B 11A3F 11A47 11A48 11A51 11A57 11A59 11A5C 11A8A 11A97
   11A98 11A9A 11C30 11C37 11C38 11C3E 11C3F 11C40 11C92 11CA8 11CAA 11CB1 11CB2 11CB4
   11CB5 11CB7 11D31 11D37 11D3A 11D3B 11D3C 11D3E 11D3F 11D46 11D47 11D48 11D90 11D92
   11D95 11D96 11D97 11D98 11EF3 11EF5 11F00 11F02 11F36 11F3B 11F40 11F41 11F42 11F43
   11F5A 11F5B 13440 13441 13447 13456 1611E 1612A 1612D 16130 16AF0 16AF5 16B30 16B37
   16F4F 16F50 16F8F 16F93 16FE4 16FE5 1BC9D 1BC9F 1BCA0 1BCA4 1CF00 1CF2E 1CF30 1CF47
   1D165 1D166 1D167 1D16A 1D16E 1D183 1D185 1D18C 1D1AA 1D1AE 1D242 1D245 1DA00 1DA37
   1DA3B 1DA6D 1DA75 1DA76 1DA84 1DA85 1DA9B 1DAA0 1DAA1 1DAB0 1E000 1E007 1E008 1E019
   1E01B 1E022 1E023 1E025 1E026 1E02B 1E08F 1E090 1E130 1E137 1E2AE 1E2AF 1E2EC 1E2F0
   1E4EC 1E4F0 1E5EE 1E5F0 1E8D0 1E8D7 1E944 1E94B E0000 E1000"

/-- Characters that take two columns. -/
def doubleWidth : CharSet := .ofText
  "1100 1160 231A 231C 2329 232B 23E9 23ED 23F0 23F1 23F3 23F4 25FD 25FF 2614 2616 2630
   2638 2648 2654 267F 2680 268A 2690 2693 2694 26A1 26A2 26AA 26AC 26BD 26BF 26C4 26C6
   26CE 26CF 26D4 26D5 26EA 26EB 26F2 26F4 26F5 26F6 26FA 26FB 26FD 26FE 2705 2706 270A
   270C 2728 2729 274C 274D 274E 274F 2753 2756 2757 2758 2795 2798 27B0 27B1 27BF 27C0
   2B1B 2B1D 2B50 2B51 2B55 2B56 2E80 2E9A 2E9B 2EF4 2F00 2FD6 2FF0 302A 3030 303F 3041
   3097 309B 3100 3105 3130 3131 3164 3165 318F 3190 31E6 31EF 321F 3220 3248 3250 A48D
   A490 A4C7 A960 A97D AC00 D7A4 F900 FB00 FE10 FE1A FE30 FE53 FE54 FE67 FE68 FE6C FF01
   FF61 FFE0 FFE7 16FE0 16FE4 16FF0 16FF2 17000 187F8 18800 18CD6 18D00 18D09 1AFF0 1AFF4
   1AFF5 1AFFC 1AFFD 1AFFF 1B000 1B123 1B132 1B133 1B150 1B153 1B155 1B156 1B164 1B168
   1B170 1B2FC 1D300 1D357 1D360 1D377 1F004 1F005 1F0CF 1F0D0 1F18E 1F18F 1F191 1F19B
   1F200 1F203 1F210 1F23C 1F240 1F249 1F250 1F252 1F260 1F266 1F300 1F321 1F32D 1F336
   1F337 1F37D 1F37E 1F394 1F3A0 1F3CB 1F3CF 1F3D4 1F3E0 1F3F1 1F3F4 1F3F5 1F3F8 1F43F
   1F440 1F441 1F442 1F4FD 1F4FF 1F53E 1F54B 1F54F 1F550 1F568 1F57A 1F57B 1F595 1F597
   1F5A4 1F5A5 1F5FB 1F650 1F680 1F6C6 1F6CC 1F6CD 1F6D0 1F6D3 1F6D5 1F6D8 1F6DC 1F6E0
   1F6EB 1F6ED 1F6F4 1F6FD 1F7E0 1F7EC 1F7F0 1F7F1 1F90C 1F93B 1F93C 1F946 1F947 1FA00
   1FA70 1FA7D 1FA80 1FA8A 1FA8F 1FAC7 1FACE 1FADD 1FADF 1FAEA 1FAF0 1FAF9 20000 2FFFE
   30000 3FFFE"

end Packrat
