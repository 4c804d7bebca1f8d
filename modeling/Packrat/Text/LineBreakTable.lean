import Packrat.Text.CharSet

/-!
# Line breaking classes

The line breaking class of every character, by its two-letter abbreviation, and the
characters that count as East Asian when brackets are looked at.
-/

namespace Packrat

/-- The line breaking classes, in ranges. -/
def lineBreakLabels : CharMap String := .ofText id
  "0:CM 9:BA A:LF B:BK D:CR E:CM 20:SP 21:EX 22:QU 23:AL 24:PR 25:PO 26:AL 27:QU 28:OP
   29:CP 2A:AL 2B:PR 2C:IS 2D:HY 2E:IS 2F:SY 30:NU 3A:IS 3C:AL 3F:EX 40:AL 5B:OP 5C:PR
   5D:CP 5E:AL 7B:OP 7C:BA 7D:CL 7E:AL 7F:CM 85:NL 86:CM A0:GL A1:OP A2:PO A3:PR A6:AL
   A7:AI A9:AL AA:AI AB:QU AC:AL AD:BA AE:AL B0:PO B1:PR B2:AI B4:BB B5:AL B6:AI BB:QU
   BC:AI BF:OP C0:AL D7:AI D8:AL F7:AI F8:AL 2C7:AI 2C8:BB 2C9:AI 2CC:BB 2CD:AI 2CE:AL
   2D0:AI 2D1:AL 2D8:AI 2DC:AL 2DD:AI 2DE:AL 2DF:BB 2E0:AL 300:CM 34F:GL 350:CM 35C:GL
   363:CM 370:AL 378:XX 37A:AL 37E:IS 37F:AL 380:XX 384:AL 38B:XX 38C:AL 38D:XX 38E:AL
   3A2:XX 3A3:AL 483:CM 48A:AL 530:XX 531:AL 557:XX 559:AL 589:IS 58A:BA 58B:XX 58D:AL
   58F:PR 590:XX 591:CM 5BE:BA 5BF:CM 5C0:AL 5C1:CM 5C3:AL 5C4:CM 5C6:EX 5C7:CM 5C8:XX
   5D0:HL 5EB:XX 5EF:HL 5F3:AL 5F5:XX 600:AL 609:PO 60C:IS 60E:AL 610:CM 61B:EX 61C:CM
   61D:EX 620:AL 64B:CM 660:NU 66A:PO 66B:NU 66D:AL 670:CM 671:AL 6D4:EX 6D5:AL 6D6:CM
   6DD:AL 6DF:CM 6E5:AL 6E7:CM 6E9:AL 6EA:CM 6EE:AL 6F0:NU 6FA:AL 70E:XX 70F:AL 711:CM
   712:AL 730:CM 74B:XX 74D:AL 7A6:CM 7B1:AL 7B2:XX 7C0:NU 7CA:AL 7EB:CM 7F4:AL 7F8:IS
   7F9:EX 7FA:AL 7FB:XX 7FD:CM 7FE:PR 800:AL 816:CM 81A:AL 81B:CM 824:AL 825:CM 828:AL
   829:CM 82E:XX 830:AL 83F:XX 840:AL 859:CM 85C:XX 85E:AL 85F:XX 860:AL 86B:XX 870:AL
   88F:XX 890:AL 892:XX 898:CM 8A0:AL 8CA:CM 8E2:AL 8E3:CM 904:AL 93A:CM 93D:AL 93E:CM
   950:AL 951:CM 958:AL 962:CM 964:BA 966:NU 970:AL 981:CM 984:XX 985:AL 98D:XX 98F:AL
   991:XX 993:AL 9A9:XX 9AA:AL 9B1:XX 9B2:AL 9B3:XX 9B6:AL 9BA:XX 9BC:CM 9BD:AL 9BE:CM
   9C5:XX 9C7:CM 9C9:XX 9CB:CM 9CE:AL 9CF:XX 9D7:CM 9D8:XX 9DC:AL 9DE:XX 9DF:AL 9E2:CM
   9E4:XX 9E6:NU 9F0:AL 9F2:PO 9F4:AL 9F9:PO 9FA:AL 9FB:PR 9FC:AL 9FE:CM 9FF:XX A01:CM
   A04:XX A05:AL A0B:XX A0F:AL A11:XX A13:AL A29:XX A2A:AL A31:XX A32:AL A34:XX A35:AL
   A37:XX A38:AL A3A:XX A3C:CM A3D:XX A3E:CM A43:XX A47:CM A49:XX A4B:CM A4E:XX A51:CM
   A52:XX A59:AL A5D:XX A5E:AL A5F:XX A66:NU A70:CM A72:AL A75:CM A76:AL A77:XX A81:CM
   A84:XX A85:AL A8E:XX A8F:AL A92:XX A93:AL AA9:XX AAA:AL AB1:XX AB2:AL AB4:XX AB5:AL
   ABA:XX ABC:CM ABD:AL ABE:CM AC6:XX AC7:CM ACA:XX ACB:CM ACE:XX AD0:AL AD1:XX AE0:AL
   AE2:CM AE4:XX AE6:NU AF0:AL AF1:PR AF2:XX AF9:AL AFA:CM B00:XX B01:CM B04:XX B05:AL
   B0D:XX B0F:AL B11:XX B13:AL B29:XX B2A:AL B31:XX B32:AL B34:XX B35:AL B3A:XX B3C:CM
   B3D:AL B3E:CM B45:XX B47:CM B49:XX B4B:CM B4E:XX B55:CM B58:XX B5C:AL B5E:XX B5F:AL
   B62:CM B64:XX B66:NU B70:AL B78:XX B82:CM B83:AL B84:XX B85:AL B8B:XX B8E:AL B91:XX
   B92:AL B96:XX B99:AL B9B:XX B9C:AL B9D:XX B9E:AL BA0:XX BA3:AL BA5:XX BA8:AL BAB:XX
   BAE:AL BBA:XX BBE:CM BC3:XX BC6:CM BC9:XX BCA:CM BCE:XX BD0:AL BD1:XX BD7:CM BD8:XX
   BE6:NU BF0:AL BF9:PR BFA:AL BFB:XX C00:CM C05:AL C0D:XX C0E:AL C11:XX C12:AL C29:XX
   C2A:AL C3A:XX C3C:CM C3D:AL C3E:CM C45:XX C46:CM C49:XX C4A:CM C4E:XX C55:CM C57:XX
   C58:AL C5B:XX C5D:AL C5E:XX C60:AL C62:CM C64:XX C66:NU C70:XX C77:BB C78:AL C81:CM
   C84:BB C85:AL C8D:XX C8E:AL C91:XX C92:AL CA9:XX CAA:AL CB4:XX CB5:AL CBA:XX CBC:CM
   CBD:AL CBE:CM CC5:XX CC6:CM CC9:XX CCA:CM CCE:XX CD5:CM CD7:XX CDD:AL CDF:XX CE0:AL
   CE2:CM CE4:XX CE6:NU CF0:XX CF1:AL CF3:CM CF4:XX D00:CM D04:AL D0D:XX D0E:AL D11:XX
   D12:AL D3B:CM D3D:AL D3E:CM D45:XX D46:CM D49:XX D4A:CM D4E:AL D50:XX D54:AL D57:CM
   D58:AL D62:CM D64:XX D66:NU D70:AL D79:PO D7A:AL D80:XX D81:CM D84:XX D85:AL D97:XX
   D9A:AL DB2:XX DB3:AL DBC:XX DBD:AL DBE:XX DC0:AL DC7:XX DCA:CM DCB:XX DCF:CM DD5:XX
   DD6:CM DD7:XX DD8:CM DE0:XX DE6:NU DF0:XX DF2:CM DF4:AL DF5:XX E01:SA E3B:XX E3F:PR
   E40:SA E4F:AL E50:NU E5A:BA E5C:XX E81:SA E83:XX E84:SA E85:XX E86:SA E8B:XX E8C:SA
   EA4:XX EA5:SA EA6:XX EA7:SA EBE:XX EC0:SA EC5:XX EC6:SA EC7:XX EC8:SA ECF:XX ED0:NU
   EDA:XX EDC:SA EE0:XX F00:AL F01:BB F05:AL F06:BB F08:GL F09:BB F0B:BA F0C:GL F0D:EX
   F12:GL F13:AL F14:EX F15:AL F18:CM F1A:AL F20:NU F2A:AL F34:BA F35:CM F36:AL F37:CM
   F38:AL F39:CM F3A:OP F3B:CL F3C:OP F3D:CL F3E:CM F40:AL F48:XX F49:AL F6D:XX F71:CM
   F7F:BA F80:CM F85:BA F86:CM F88:AL F8D:CM F98:XX F99:CM FBD:XX FBE:BA FC0:AL FC6:CM
   FC7:AL FCD:XX FCE:AL FD0:BB FD2:BA FD3:BB FD4:AL FD9:GL FDB:XX 1000:SA 1040:NU 104A:BA
   104C:AL 1050:SA 1090:NU 109A:SA 10A0:AL 10C6:XX 10C7:AL 10C8:XX 10CD:AL 10CE:XX 10D0:AL
   1100:JL 1160:JV 11A8:JT 1200:AL 1249:XX 124A:AL 124E:XX 1250:AL 1257:XX 1258:AL 1259:XX
   125A:AL 125E:XX 1260:AL 1289:XX 128A:AL 128E:XX 1290:AL 12B1:XX 12B2:AL 12B6:XX 12B8:AL
   12BF:XX 12C0:AL 12C1:XX 12C2:AL 12C6:XX 12C8:AL 12D7:XX 12D8:AL 1311:XX 1312:AL 1316:XX
   1318:AL 135B:XX 135D:CM 1360:AL 1361:BA 1362:AL 137D:XX 1380:AL 139A:XX 13A0:AL 13F6:XX
   13F8:AL 13FE:XX 1400:BA 1401:AL 1680:BA 1681:AL 169B:OP 169C:CL 169D:XX 16A0:AL 16EB:BA
   16EE:AL 16F9:XX 1700:AL 1712:CM 1716:XX 171F:AL 1732:CM 1735:BA 1737:XX 1740:AL 1752:CM
   1754:XX 1760:AL 176D:XX 176E:AL 1771:XX 1772:CM 1774:XX 1780:SA 17D4:BA 17D6:NS 17D7:SA
   17D8:BA 17D9:AL 17DA:BA 17DB:PR 17DC:SA 17DE:XX 17E0:NU 17EA:XX 17F0:AL 17FA:XX 1800:AL
   1802:EX 1804:BA 1806:BB 1807:AL 1808:EX 180A:AL 180B:CM 180E:GL 180F:CM 1810:NU 181A:XX
   1820:AL 1879:XX 1880:AL 1885:CM 1887:AL 18A9:CM 18AA:AL 18AB:XX 18B0:AL 18F6:XX 1900:AL
   191F:XX 1920:CM 192C:XX 1930:CM 193C:XX 1940:AL 1941:XX 1944:EX 1946:NU 1950:SA 196E:XX
   1970:SA 1975:XX 1980:SA 19AC:XX 19B0:SA 19CA:XX 19D0:NU 19DA:SA 19DB:XX 19DE:SA 19E0:AL
   1A17:CM 1A1C:XX 1A1E:AL 1A20:SA 1A5F:XX 1A60:SA 1A7D:XX 1A7F:CM 1A80:NU 1A8A:XX 1A90:NU
   1A9A:XX 1AA0:SA 1AAE:XX 1AB0:CM 1ACF:XX 1B00:CM 1B05:AL 1B34:CM 1B45:AL 1B4D:XX 1B50:NU
   1B5A:BA 1B5C:AL 1B5D:BA 1B61:AL 1B6B:CM 1B74:AL 1B7D:BA 1B7F:XX 1B80:CM 1B83:AL 1BA1:CM
   1BAE:AL 1BB0:NU 1BBA:AL 1BE6:CM 1BF4:XX 1BFC:AL 1C24:CM 1C38:XX 1C3B:BA 1C40:NU 1C4A:XX
   1C4D:AL 1C50:NU 1C5A:AL 1C7E:BA 1C80:AL 1C89:XX 1C90:AL 1CBB:XX 1CBD:AL 1CC8:XX 1CD0:CM
   1CD3:AL 1CD4:CM 1CE9:AL 1CED:CM 1CEE:AL 1CF4:CM 1CF5:AL 1CF7:CM 1CFA:AL 1CFB:XX 1D00:AL
   1DC0:CM 1DCD:GL 1DCE:CM 1DFC:GL 1DFD:CM 1E00:AL 1F16:XX 1F18:AL 1F1E:XX 1F20:AL 1F46:XX
   1F48:AL 1F4E:XX 1F50:AL 1F58:XX 1F59:AL 1F5A:XX 1F5B:AL 1F5C:XX 1F5D:AL 1F5E:XX 1F5F:AL
   1F7E:XX 1F80:AL 1FB5:XX 1FB6:AL 1FC5:XX 1FC6:AL 1FD4:XX 1FD6:AL 1FDC:XX 1FDD:AL 1FF0:XX
   1FF2:AL 1FF5:XX 1FF6:AL 1FFD:BB 1FFE:AL 1FFF:XX 2000:BA 2007:GL 2008:BA 200B:ZW 200C:CM
   200D:ZWJ 200E:CM 2010:BA 2011:GL 2012:BA 2014:B2 2015:AI 2017:AL 2018:QU 201A:OP 201B:QU
   201E:OP 201F:QU 2020:AI 2022:AL 2024:IN 2027:BA 2028:BK 202A:CM 202F:GL 2030:PO 2038:AL
   2039:QU 203B:AI 203C:NS 203E:AL 2044:IS 2045:OP 2046:CL 2047:NS 204A:AL 2056:BA 2057:PO
   2058:BA 205C:AL 205D:BA 2060:WJ 2061:AL 2065:XX 2066:CM 2070:AL 2072:XX 2074:AI 2075:AL
   207D:OP 207E:CL 207F:AI 2080:AL 2081:AI 2085:AL 208D:OP 208E:CL 208F:XX 2090:AL 209D:XX
   20A0:PR 20A7:PO 20A8:PR 20B6:PO 20B7:PR 20BB:PO 20BC:PR 20BE:PO 20BF:PR 20C0:PO 20C1:PR
   20D0:CM 20F1:XX 2100:AL 2103:PO 2104:AL 2105:AI 2106:AL 2109:PO 210A:AL 2113:AI 2114:AL
   2116:PR 2117:AL 2121:AI 2123:AL 212B:AI 212C:AL 2154:AI 2156:AL 215B:AI 215C:AL 215E:AI
   215F:AL 2160:AI 216C:AL 2170:AI 217A:AL 2189:AI 218A:AL 218C:XX 2190:AI 219A:AL 21D2:AI
   21D3:AL 21D4:AI 21D5:AL 2200:AI 2201:AL 2202:AI 2204:AL 2207:AI 2209:AL 220B:AI 220C:AL
   220F:AI 2210:AL 2211:AI 2212:PR 2214:AL 2215:AI 2216:AL 221A:AI 221B:AL 221D:AI 2221:AL
   2223:AI 2224:AL 2225:AI 2226:AL 2227:AI 222D:AL 222E:AI 222F:AL 2234:AI 2238:AL 223C:AI
   223E:AL 2248:AI 2249:AL 224C:AI 224D:AL 2252:AI 2253:AL 2260:AI 2262:AL 2264:AI 2268:AL
   226A:AI 226C:AL 226E:AI 2270:AL 2282:AI 2284:AL 2286:AI 2288:AL 2295:AI 2296:AL 2299:AI
   229A:AL 22A5:AI 22A6:AL 22BF:AI 22C0:AL 22EF:IN 22F0:AL 2308:OP 2309:CL 230A:OP 230B:CL
   230C:AL 2312:AI 2313:AL 231A:ID 231C:AL 2329:OP 232A:CL 232B:AL 23F0:ID 23F4:AL 2427:XX
   2440:AL 244B:XX 2460:AI 24FF:AL 2500:AI 254C:AL 2550:AI 2575:AL 2580:AI 2590:AL 2592:AI
   2596:AL 25A0:AI 25A2:AL 25A3:AI 25AA:AL 25B2:AI 25B4:AL 25B6:AI 25B8:AL 25BC:AI 25BE:AL
   25C0:AI 25C2:AL 25C6:AI 25C9:AL 25CB:AI 25CC:AL 25CE:AI 25D2:AL 25E2:AI 25E6:AL 25EF:AI
   25F0:AL 2600:ID 2604:AL 2605:AI 2607:AL 2609:AI 260A:AL 260E:AI 2610:AL 2614:ID 2616:AI
   2618:ID 2619:AL 261A:ID 261D:EB 261E:ID 2620:AL 2639:ID 263C:AL 2640:AI 2641:AL 2642:AI
   2643:AL 2660:AI 2662:AL 2663:AI 2666:AL 2667:AI 2668:ID 2669:AI 266B:AL 266C:AI 266E:AL
   266F:AI 2670:AL 267F:ID 2680:AL 269E:AI 26A0:AL 26BD:ID 26C9:AI 26CD:ID 26CE:AL 26CF:ID
   26D2:AI 26D3:ID 26D5:AI 26D8:ID 26DA:AI 26DC:ID 26DD:AI 26DF:ID 26E2:AL 26E3:AI 26E4:AL
   26E8:AI 26EA:ID 26EB:AI 26F1:ID 26F6:AI 26F7:ID 26F9:EB 26FA:ID 26FB:AI 26FD:ID 2705:AL
   2708:ID 270A:EB 270E:AL 2757:AI 2758:AL 275B:QU 2761:AL 2762:EX 2764:ID 2765:AL 2768:OP
   2769:CL 276A:OP 276B:CL 276C:OP 276D:CL 276E:OP 276F:CL 2770:OP 2771:CL 2772:OP 2773:CL
   2774:OP 2775:CL 2776:AI 2794:AL 27C5:OP 27C6:CL 27C7:AL 27E6:OP 27E7:CL 27E8:OP 27E9:CL
   27EA:OP 27EB:CL 27EC:OP 27ED:CL 27EE:OP 27EF:CL 27F0:AL 2983:OP 2984:CL 2985:OP 2986:CL
   2987:OP 2988:CL 2989:OP 298A:CL 298B:OP 298C:CL 298D:OP 298E:CL 298F:OP 2990:CL 2991:OP
   2992:CL 2993:OP 2994:CL 2995:OP 2996:CL 2997:OP 2998:CL 2999:AL 29D8:OP 29D9:CL 29DA:OP
   29DB:CL 29DC:AL 29FC:OP 29FD:CL 29FE:AL 2B55:AI 2B5A:AL 2B74:XX 2B76:AL 2B96:XX 2B97:AL
   2CEF:CM 2CF2:AL 2CF4:XX 2CF9:EX 2CFA:BA 2CFD:AL 2CFE:EX 2CFF:BA 2D00:AL 2D26:XX 2D27:AL
   2D28:XX 2D2D:AL 2D2E:XX 2D30:AL 2D68:XX 2D6F:AL 2D70:BA 2D71:XX 2D7F:CM 2D80:AL 2D97:XX
   2DA0:AL 2DA7:XX 2DA8:AL 2DAF:XX 2DB0:AL 2DB7:XX 2DB8:AL 2DBF:XX 2DC0:AL 2DC7:XX 2DC8:AL
   2DCF:XX 2DD0:AL 2DD7:XX 2DD8:AL 2DDF:XX 2DE0:CM 2E00:QU 2E0E:BA 2E16:AL 2E17:BA 2E18:OP
   2E19:BA 2E1A:AL 2E1C:QU 2E1E:AL 2E20:QU 2E22:OP 2E23:CL 2E24:OP 2E25:CL 2E26:OP 2E27:CL
   2E28:OP 2E29:CL 2E2A:BA 2E2E:EX 2E2F:AL 2E30:BA 2E32:AL 2E33:BA 2E35:AL 2E3A:B2 2E3C:BA
   2E3F:AL 2E40:BA 2E42:OP 2E43:BA 2E4B:AL 2E4C:BA 2E4D:AL 2E4E:BA 2E50:AL 2E53:EX 2E55:OP
   2E56:CL 2E57:OP 2E58:CL 2E59:OP 2E5A:CL 2E5B:OP 2E5C:CL 2E5D:BA 2E5E:XX 2E80:ID 2E9A:XX
   2E9B:ID 2EF4:XX 2F00:ID 2FD6:XX 2FF0:ID 2FFC:XX 3000:BA 3001:CL 3003:ID 3005:NS 3006:ID
   3008:OP 3009:CL 300A:OP 300B:CL 300C:OP 300D:CL 300E:OP 300F:CL 3010:OP 3011:CL 3012:ID
   3014:OP 3015:CL 3016:OP 3017:CL 3018:OP 3019:CL 301A:OP 301B:CL 301C:NS 301D:OP 301E:CL
   3020:ID 302A:CM 3030:ID 3035:CM 3036:ID 303B:NS 303D:ID 3040:XX 3041:CJ 3042:ID 3043:CJ
   3044:ID 3045:CJ 3046:ID 3047:CJ 3048:ID 3049:CJ 304A:ID 3063:CJ 3064:ID 3083:CJ 3084:ID
   3085:CJ 3086:ID 3087:CJ 3088:ID 308E:CJ 308F:ID 3095:CJ 3097:XX 3099:CM 309B:NS 309F:ID
   30A0:NS 30A1:CJ 30A2:ID 30A3:CJ 30A4:ID 30A5:CJ 30A6:ID 30A7:CJ 30A8:ID 30A9:CJ 30AA:ID
   30C3:CJ 30C4:ID 30E3:CJ 30E4:ID 30E5:CJ 30E6:ID 30E7:CJ 30E8:ID 30EE:CJ 30EF:ID 30F5:CJ
   30F7:ID 30FB:NS 30FC:CJ 30FD:NS 30FF:ID 3100:XX 3105:ID 3130:XX 3131:ID 318F:XX 3190:ID
   31E4:XX 31F0:CJ 3200:ID 321F:XX 3220:ID 3248:AI 3250:ID 4DC0:AL 4E00:ID A015:NS A016:ID
   A48D:XX A490:ID A4C7:XX A4D0:AL A4FE:BA A500:AL A60D:BA A60E:EX A60F:BA A610:AL A620:NU
   A62A:AL A62C:XX A640:AL A66F:CM A673:AL A674:CM A67E:AL A69E:CM A6A0:AL A6F0:CM A6F2:AL
   A6F3:BA A6F8:XX A700:AL A7CB:XX A7D0:AL A7D2:XX A7D3:AL A7D4:XX A7D5:AL A7DA:XX A7F2:AL
   A802:CM A803:AL A806:CM A807:AL A80B:CM A80C:AL A823:CM A828:AL A82C:CM A82D:XX A830:AL
   A838:PO A839:AL A83A:XX A840:AL A874:BB A876:EX A878:XX A880:CM A882:AL A8B4:CM A8C6:XX
   A8CE:BA A8D0:NU A8DA:XX A8E0:CM A8F2:AL A8FC:BB A8FD:AL A8FF:CM A900:NU A90A:AL A926:CM
   A92E:BA A930:AL A947:CM A954:XX A95F:AL A960:JL A97D:XX A980:CM A984:AL A9B3:CM A9C1:AL
   A9C7:BA A9CA:AL A9CE:XX A9CF:AL A9D0:NU A9DA:XX A9DE:AL A9E0:SA A9F0:NU A9FA:SA A9FF:XX
   AA00:AL AA29:CM AA37:XX AA40:AL AA43:CM AA44:AL AA4C:CM AA4E:XX AA50:NU AA5A:XX AA5C:AL
   AA5D:BA AA60:SA AAC3:XX AADB:SA AAE0:AL AAEB:CM AAF0:BA AAF2:AL AAF5:CM AAF7:XX AB01:AL
   AB07:XX AB09:AL AB0F:XX AB11:AL AB17:XX AB20:AL AB27:XX AB28:AL AB2F:XX AB30:AL AB6C:XX
   AB70:AL ABE3:CM ABEB:BA ABEC:CM ABEE:XX ABF0:NU ABFA:XX AC00:H2 AC01:H3 AC1C:H2 AC1D:H3
   AC38:H2 AC39:H3 AC54:H2 AC55:H3 AC70:H2 AC71:H3 AC8C:H2 AC8D:H3 ACA8:H2 ACA9:H3 ACC4:H2
   ACC5:H3 ACE0:H2 ACE1:H3 ACFC:H2 ACFD:H3 AD18:H2 AD19:H3 AD34:H2 AD35:H3 AD50:H2 AD51:H3
   AD6C:H2 AD6D:H3 AD88:H2 AD89:H3 ADA4:H2 ADA5:H3 ADC0:H2 ADC1:H3 ADDC:H2 ADDD:H3 ADF8:H2
   ADF9:H3 AE14:H2 AE15:H3 AE30:H2 AE31:H3 AE4C:H2 AE4D:H3 AE68:H2 AE69:H3 AE84:H2 AE85:H3
   AEA0:H2 AEA1:H3 AEBC:H2 AEBD:H3 AED8:H2 AED9:H3 AEF4:H2 AEF5:H3 AF10:H2 AF11:H3 AF2C:H2
   AF2D:H3 AF48:H2 AF49:H3 AF64:H2 AF65:H3 AF80:H2 AF81:H3 AF9C:H2 AF9D:H3 AFB8:H2 AFB9:H3
   AFD4:H2 AFD5:H3 AFF0:H2 AFF1:H3 B00C:H2 B00D:H3 B028:H2 B029:H3 B044:H2 B045:H3 B060:H2
   B061:H3 B07C:H2 B07D:H3 B098:H2 B099:H3 B0B4:H2 B0B5:H3 B0D0:H2 B0D1:H3 B0EC:H2 B0ED:H3
   B108:H2 B109:H3 B124:H2 B125:H3 B140:H2 B141:H3 B15C:H2 B15D:H3 B178:H2 B179:H3 B194:H2
   B195:H3 B1B0:H2 B1B1:H3 B1CC:H2 B1CD:H3 B1E8:H2 B1E9:H3 B204:H2 B205:H3 B220:H2 B221:H3
   B23C:H2 B23D:H3 B258:H2 B259:H3 B274:H2 B275:H3 B290:H2 B291:H3 B2AC:H2 B2AD:H3 B2C8:H2
   B2C9:H3 B2E4:H2 B2E5:H3 B300:H2 B301:H3 B31C:H2 B31D:H3 B338:H2 B339:H3 B354:H2 B355:H3
   B370:H2 B371:H3 B38C:H2 B38D:H3 B3A8:H2 B3A9:H3 B3C4:H2 B3C5:H3 B3E0:H2 B3E1:H3 B3FC:H2
   B3FD:H3 B418:H2 B419:H3 B434:H2 B435:H3 B450:H2 B451:H3 B46C:H2 B46D:H3 B488:H2 B489:H3
   B4A4:H2 B4A5:H3 B4C0:H2 B4C1:H3 B4DC:H2 B4DD:H3 B4F8:H2 B4F9:H3 B514:H2 B515:H3 B530:H2
   B531:H3 B54C:H2 B54D:H3 B568:H2 B569:H3 B584:H2 B585:H3 B5A0:H2 B5A1:H3 B5BC:H2 B5BD:H3
   B5D8:H2 B5D9:H3 B5F4:H2 B5F5:H3 B610:H2 B611:H3 B62C:H2 B62D:H3 B648:H2 B649:H3 B664:H2
   B665:H3 B680:H2 B681:H3 B69C:H2 B69D:H3 B6B8:H2 B6B9:H3 B6D4:H2 B6D5:H3 B6F0:H2 B6F1:H3
   B70C:H2 B70D:H3 B728:H2 B729:H3 B744:H2 B745:H3 B760:H2 B761:H3 B77C:H2 B77D:H3 B798:H2
   B799:H3 B7B4:H2 B7B5:H3 B7D0:H2 B7D1:H3 B7EC:H2 B7ED:H3 B808:H2 B809:H3 B824:H2 B825:H3
   B840:H2 B841:H3 B85C:H2 B85D:H3 B878:H2 B879:H3 B894:H2 B895:H3 B8B0:H2 B8B1:H3 B8CC:H2
   B8CD:H3 B8E8:H2 B8E9:H3 B904:H2 B905:H3 B920:H2 B921:H3 B93C:H2 B93D:H3 B958:H2 B959:H3
   B974:H2 B975:H3 B990:H2 B991:H3 B9AC:H2 B9AD:H3 B9C8:H2 B9C9:H3 B9E4:H2 B9E5:H3 BA00:H2
   BA01:H3 BA1C:H2 BA1D:H3 BA38:H2 BA39:H3 BA54:H2 BA55:H3 BA70:H2 BA71:H3 BA8C:H2 BA8D:H3
   BAA8:H2 BAA9:H3 BAC4:H2 BAC5:H3 BAE0:H2 BAE1:H3 BAFC:H2 BAFD:H3 BB18:H2 BB19:H3 BB34:H2
   BB35:H3 BB50:H2 BB51:H3 BB6C:H2 BB6D:H3 BB88:H2 BB89:H3 BBA4:H2 BBA5:H3 BBC0:H2 BBC1:H3
   BBDC:H2 BBDD:H3 BBF8:H2 BBF9:H3 BC14:H2 BC15:H3 BC30:H2 BC31:H3 BC4C:H2 BC4D:H3 BC68:H2
   BC69:H3 BC84:H2 BC85:H3 BCA0:H2 BCA1:H3 BCBC:H2 BCBD:H3 BCD8:H2 BCD9:H3 BCF4:H2 BCF5:H3
   BD10:H2 BD11:H3 BD2C:H2 BD2D:H3 BD48:H2 BD49:H3 BD64:H2 BD65:H3 BD80:H2 BD81:H3 BD9C:H2
   BD9D:H3 BDB8:H2 BDB9:H3 BDD4:H2 BDD5:H3 BDF0:H2 BDF1:H3 BE0C:H2 BE0D:H3 BE28:H2 BE29:H3
   BE44:H2 BE45:H3 BE60:H2 BE61:H3 BE7C:H2 BE7D:H3 BE98:H2 BE99:H3 BEB4:H2 BEB5:H3 BED0:H2
   BED1:H3 BEEC:H2 BEED:H3 BF08:H2 BF09:H3 BF24:H2 BF25:H3 BF40:H2 BF41:H3 BF5C:H2 BF5D:H3
   BF78:H2 BF79:H3 BF94:H2 BF95:H3 BFB0:H2 BFB1:H3 BFCC:H2 BFCD:H3 BFE8:H2 BFE9:H3 C004:H2
   C005:H3 C020:H2 C021:H3 C03C:H2 C03D:H3 C058:H2 C059:H3 C074:H2 C075:H3 C090:H2 C091:H3
   C0AC:H2 C0AD:H3 C0C8:H2 C0C9:H3 C0E4:H2 C0E5:H3 C100:H2 C101:H3 C11C:H2 C11D:H3 C138:H2
   C139:H3 C154:H2 C155:H3 C170:H2 C171:H3 C18C:H2 C18D:H3 C1A8:H2 C1A9:H3 C1C4:H2 C1C5:H3
   C1E0:H2 C1E1:H3 C1FC:H2 C1FD:H3 C218:H2 C219:H3 C234:H2 C235:H3 C250:H2 C251:H3 C26C:H2
   C26D:H3 C288:H2 C289:H3 C2A4:H2 C2A5:H3 C2C0:H2 C2C1:H3 C2DC:H2 C2DD:H3 C2F8:H2 C2F9:H3
   C314:H2 C315:H3 C330:H2 C331:H3 C34C:H2 C34D:H3 C368:H2 C369:H3 C384:H2 C385:H3 C3A0:H2
   C3A1:H3 C3BC:H2 C3BD:H3 C3D8:H2 C3D9:H3 C3F4:H2 C3F5:H3 C410:H2 C411:H3 C42C:H2 C42D:H3
   C448:H2 C449:H3 C464:H2 C465:H3 C480:H2 C481:H3 C49C:H2 C49D:H3 C4B8:H2 C4B9:H3 C4D4:H2
   C4D5:H3 C4F0:H2 C4F1:H3 C50C:H2 C50D:H3 C528:H2 C529:H3 C544:H2 C545:H3 C560:H2 C561:H3
   C57C:H2 C57D:H3 C598:H2 C599:H3 C5B4:H2 C5B5:H3 C5D0:H2 C5D1:H3 C5EC:H2 C5ED:H3 C608:H2
   C609:H3 C624:H2 C625:H3 C640:H2 C641:H3 C65C:H2 C65D:H3 C678:H2 C679:H3 C694:H2 C695:H3
   C6B0:H2 C6B1:H3 C6CC:H2 C6CD:H3 C6E8:H2 C6E9:H3 C704:H2 C705:H3 C720:H2 C721:H3 C73C:H2
   C73D:H3 C758:H2 C759:H3 C774:H2 C775:H3 C790:H2 C791:H3 C7AC:H2 C7AD:H3 C7C8:H2 C7C9:H3
   C7E4:H2 C7E5:H3 C800:H2 C801:H3 C81C:H2 C81D:H3 C838:H2 C839:H3 C854:H2 C855:H3 C870:H2
   C871:H3 C88C:H2 C88D:H3 C8A8:H2 C8A9:H3 C8C4:H2 C8C5:H3 C8E0:H2 C8E1:H3 C8FC:H2 C8FD:H3
   C918:H2 C919:H3 C934:H2 C935:H3 C950:H2 C951:H3 C96C:H2 C96D:H3 C988:H2 C989:H3 C9A4:H2
   C9A5:H3 C9C0:H2 C9C1:H3 C9DC:H2 C9DD:H3 C9F8:H2 C9F9:H3 CA14:H2 CA15:H3 CA30:H2 CA31:H3
   CA4C:H2 CA4D:H3 CA68:H2 CA69:H3 CA84:H2 CA85:H3 CAA0:H2 CAA1:H3 CABC:H2 CABD:H3 CAD8:H2
   CAD9:H3 CAF4:H2 CAF5:H3 CB10:H2 CB11:H3 CB2C:H2 CB2D:H3 CB48:H2 CB49:H3 CB64:H2 CB65:H3
   CB80:H2 CB81:H3 CB9C:H2 CB9D:H3 CBB8:H2 CBB9:H3 CBD4:H2 CBD5:H3 CBF0:H2 CBF1:H3 CC0C:H2
   CC0D:H3 CC28:H2 CC29:H3 CC44:H2 CC45:H3 CC60:H2 CC61:H3 CC7C:H2 CC7D:H3 CC98:H2 CC99:H3
   CCB4:H2 CCB5:H3 CCD0:H2 CCD1:H3 CCEC:H2 CCED:H3 CD08:H2 CD09:H3 CD24:H2 CD25:H3 CD40:H2
   CD41:H3 CD5C:H2 CD5D:H3 CD78:H2 CD79:H3 CD94:H2 CD95:H3 CDB0:H2 CDB1:H3 CDCC:H2 CDCD:H3
   CDE8:H2 CDE9:H3 CE04:H2 CE05:H3 CE20:H2 CE21:H3 CE3C:H2 CE3D:H3 CE58:H2 CE59:H3 CE74:H2
   CE75:H3 CE90:H2 CE91:H3 CEAC:H2 CEAD:H3 CEC8:H2 CEC9:H3 CEE4:H2 CEE5:H3 CF00:H2 CF01:H3
   CF1C:H2 CF1D:H3 CF38:H2 CF39:H3 CF54:H2 CF55:H3 CF70:H2 CF71:H3 CF8C:H2 CF8D:H3 CFA8:H2
   CFA9:H3 CFC4:H2 CFC5:H3 CFE0:H2 CFE1:H3 CFFC:H2 CFFD:H3 D018:H2 D019:H3 D034:H2 D035:H3
   D050:H2 D051:H3 D06C:H2 D06D:H3 D088:H2 D089:H3 D0A4:H2 D0A5:H3 D0C0:H2 D0C1:H3 D0DC:H2
   D0DD:H3 D0F8:H2 D0F9:H3 D114:H2 D115:H3 D130:H2 D131:H3 D14C:H2 D14D:H3 D168:H2 D169:H3
   D184:H2 D185:H3 D1A0:H2 D1A1:H3 D1BC:H2 D1BD:H3 D1D8:H2 D1D9:H3 D1F4:H2 D1F5:H3 D210:H2
   D211:H3 D22C:H2 D22D:H3 D248:H2 D249:H3 D264:H2 D265:H3 D280:H2 D281:H3 D29C:H2 D29D:H3
   D2B8:H2 D2B9:H3 D2D4:H2 D2D5:H3 D2F0:H2 D2F1:H3 D30C:H2 D30D:H3 D328:H2 D329:H3 D344:H2
   D345:H3 D360:H2 D361:H3 D37C:H2 D37D:H3 D398:H2 D399:H3 D3B4:H2 D3B5:H3 D3D0:H2 D3D1:H3
   D3EC:H2 D3ED:H3 D408:H2 D409:H3 D424:H2 D425:H3 D440:H2 D441:H3 D45C:H2 D45D:H3 D478:H2
   D479:H3 D494:H2 D495:H3 D4B0:H2 D4B1:H3 D4CC:H2 D4CD:H3 D4E8:H2 D4E9:H3 D504:H2 D505:H3
   D520:H2 D521:H3 D53C:H2 D53D:H3 D558:H2 D559:H3 D574:H2 D575:H3 D590:H2 D591:H3 D5AC:H2
   D5AD:H3 D5C8:H2 D5C9:H3 D5E4:H2 D5E5:H3 D600:H2 D601:H3 D61C:H2 D61D:H3 D638:H2 D639:H3
   D654:H2 D655:H3 D670:H2 D671:H3 D68C:H2 D68D:H3 D6A8:H2 D6A9:H3 D6C4:H2 D6C5:H3 D6E0:H2
   D6E1:H3 D6FC:H2 D6FD:H3 D718:H2 D719:H3 D734:H2 D735:H3 D750:H2 D751:H3 D76C:H2 D76D:H3
   D788:H2 D789:H3 D7A4:XX D7B0:JV D7C7:XX D7CB:JT D7FC:XX D800:SG E000:XX F900:ID FB00:AL
   FB07:XX FB13:AL FB18:XX FB1D:HL FB1E:CM FB1F:HL FB29:AL FB2A:HL FB37:XX FB38:HL FB3D:XX
   FB3E:HL FB3F:XX FB40:HL FB42:XX FB43:HL FB45:XX FB46:HL FB50:AL FBC3:XX FBD3:AL FD3E:CL
   FD3F:OP FD40:AL FD90:XX FD92:AL FDC8:XX FDCF:AL FDD0:XX FDF0:AL FDFC:PO FDFD:AL FE00:CM
   FE10:IS FE11:CL FE13:IS FE15:EX FE17:OP FE18:CL FE19:IN FE1A:XX FE20:CM FE30:ID FE35:OP
   FE36:CL FE37:OP FE38:CL FE39:OP FE3A:CL FE3B:OP FE3C:CL FE3D:OP FE3E:CL FE3F:OP FE40:CL
   FE41:OP FE42:CL FE43:OP FE44:CL FE45:ID FE47:OP FE48:CL FE49:ID FE50:CL FE51:ID FE52:CL
   FE53:XX FE54:NS FE56:EX FE58:ID FE59:OP FE5A:CL FE5B:OP FE5C:CL FE5D:OP FE5E:CL FE5F:ID
   FE67:XX FE68:ID FE69:PR FE6A:PO FE6B:ID FE6C:XX FE70:AL FE75:XX FE76:AL FEFD:XX FEFF:WJ
   FF00:XX FF01:EX FF02:ID FF04:PR FF05:PO FF06:ID FF08:OP FF09:CL FF0A:ID FF0C:CL FF0D:ID
   FF0E:CL FF0F:ID FF1A:NS FF1C:ID FF1F:EX FF20:ID FF3B:OP FF3C:ID FF3D:CL FF3E:ID FF5B:OP
   FF5C:ID FF5D:CL FF5E:ID FF5F:OP FF60:CL FF62:OP FF63:CL FF65:NS FF66:ID FF67:CJ FF71:ID
   FF9E:NS FFA0:ID FFBF:XX FFC2:ID FFC8:XX FFCA:ID FFD0:XX FFD2:ID FFD8:XX FFDA:ID FFDD:XX
   FFE0:PO FFE1:PR FFE2:ID FFE5:PR FFE7:XX FFE8:AL FFEF:XX FFF9:CM FFFC:CB FFFD:AI FFFE:XX
   10000:AL 1000C:XX 1000D:AL 10027:XX 10028:AL 1003B:XX 1003C:AL 1003E:XX 1003F:AL
   1004E:XX 10050:AL 1005E:XX 10080:AL 100FB:XX 10100:BA 10103:XX 10107:AL 10134:XX
   10137:AL 1018F:XX 10190:AL 1019D:XX 101A0:AL 101A1:XX 101D0:AL 101FD:CM 101FE:XX
   10280:AL 1029D:XX 102A0:AL 102D1:XX 102E0:CM 102E1:AL 102FC:XX 10300:AL 10324:XX
   1032D:AL 1034B:XX 10350:AL 10376:CM 1037B:XX 10380:AL 1039E:XX 1039F:BA 103A0:AL
   103C4:XX 103C8:AL 103D0:BA 103D1:AL 103D6:XX 10400:AL 1049E:XX 104A0:NU 104AA:XX
   104B0:AL 104D4:XX 104D8:AL 104FC:XX 10500:AL 10528:XX 10530:AL 10564:XX 1056F:AL
   1057B:XX 1057C:AL 1058B:XX 1058C:AL 10593:XX 10594:AL 10596:XX 10597:AL 105A2:XX
   105A3:AL 105B2:XX 105B3:AL 105BA:XX 105BB:AL 105BD:XX 10600:AL 10737:XX 10740:AL
   10756:XX 10760:AL 10768:XX 10780:AL 10786:XX 10787:AL 107B1:XX 107B2:AL 107BB:XX
   10800:AL 10806:XX 10808:AL 10809:XX 1080A:AL 10836:XX 10837:AL 10839:XX 1083C:AL
   1083D:XX 1083F:AL 10856:XX 10857:BA 10858:AL 1089F:XX 108A7:AL 108B0:XX 108E0:AL
   108F3:XX 108F4:AL 108F6:XX 108FB:AL 1091C:XX 1091F:BA 10920:AL 1093A:XX 1093F:AL
   10940:XX 10980:AL 109B8:XX 109BC:AL 109D0:XX 109D2:AL 10A01:CM 10A04:XX 10A05:CM
   10A07:XX 10A0C:CM 10A10:AL 10A14:XX 10A15:AL 10A18:XX 10A19:AL 10A36:XX 10A38:CM
   10A3B:XX 10A3F:CM 10A40:AL 10A49:XX 10A50:BA 10A58:AL 10A59:XX 10A60:AL 10AA0:XX
   10AC0:AL 10AE5:CM 10AE7:XX 10AEB:AL 10AF0:BA 10AF6:IN 10AF7:XX 10B00:AL 10B36:XX
   10B39:BA 10B40:AL 10B56:XX 10B58:AL 10B73:XX 10B78:AL 10B92:XX 10B99:AL 10B9D:XX
   10BA9:AL 10BB0:XX 10C00:AL 10C49:XX 10C80:AL 10CB3:XX 10CC0:AL 10CF3:XX 10CFA:AL
   10D24:CM 10D28:XX 10D30:NU 10D3A:XX 10E60:AL 10E7F:XX 10E80:AL 10EAA:XX 10EAB:CM
   10EAD:BA 10EAE:XX 10EB0:AL 10EB2:XX 10EFD:CM 10F00:AL 10F28:XX 10F30:AL 10F46:CM
   10F51:AL 10F5A:XX 10F70:AL 10F82:CM 10F86:AL 10F8A:XX 10FB0:AL 10FCC:XX 10FE0:AL
   10FF7:XX 11000:CM 11003:AL 11038:CM 11047:BA 11049:AL 1104E:XX 11052:AL 11066:NU
   11070:CM 11071:AL 11073:CM 11075:AL 11076:XX 1107F:CM 11083:AL 110B0:CM 110BB:AL
   110BE:BA 110C2:CM 110C3:XX 110CD:AL 110CE:XX 110D0:AL 110E9:XX 110F0:NU 110FA:XX
   11100:CM 11103:AL 11127:CM 11135:XX 11136:NU 11140:BA 11144:AL 11145:CM 11147:AL
   11148:XX 11150:AL 11173:CM 11174:AL 11175:BB 11176:AL 11177:XX 11180:CM 11183:AL
   111B3:CM 111C1:AL 111C5:BA 111C7:AL 111C8:BA 111C9:CM 111CD:AL 111CE:CM 111D0:NU
   111DA:AL 111DB:BB 111DC:AL 111DD:BA 111E0:XX 111E1:AL 111F5:XX 11200:AL 11212:XX
   11213:AL 1122C:CM 11238:BA 1123A:AL 1123B:BA 1123D:AL 1123E:CM 1123F:AL 11241:CM
   11242:XX 11280:AL 11287:XX 11288:AL 11289:XX 1128A:AL 1128E:XX 1128F:AL 1129E:XX
   1129F:AL 112A9:BA 112AA:XX 112B0:AL 112DF:CM 112EB:XX 112F0:NU 112FA:XX 11300:CM
   11304:XX 11305:AL 1130D:XX 1130F:AL 11311:XX 11313:AL 11329:XX 1132A:AL 11331:XX
   11332:AL 11334:XX 11335:AL 1133A:XX 1133B:CM 1133D:AL 1133E:CM 11345:XX 11347:CM
   11349:XX 1134B:CM 1134E:XX 11350:AL 11351:XX 11357:CM 11358:XX 1135D:AL 11362:CM
   11364:XX 11366:CM 1136D:XX 11370:CM 11375:XX 11400:AL 11435:CM 11447:AL 1144B:BA
   1144F:AL 11450:NU 1145A:BA 1145C:XX 1145D:AL 1145E:CM 1145F:AL 11462:XX 11480:AL
   114B0:CM 114C4:AL 114C8:XX 114D0:NU 114DA:XX 11580:AL 115AF:CM 115B6:XX 115B8:CM
   115C1:BB 115C2:BA 115C4:EX 115C6:AL 115C9:BA 115D8:AL 115DC:CM 115DE:XX 11600:AL
   11630:CM 11641:BA 11643:AL 11645:XX 11650:NU 1165A:XX 11660:BB 1166D:XX 11680:AL
   116AB:CM 116B8:AL 116BA:XX 116C0:NU 116CA:XX 11700:SA 1171B:XX 1171D:SA 1172C:XX
   11730:NU 1173A:SA 1173C:BA 1173F:SA 11747:XX 11800:AL 1182C:CM 1183B:AL 1183C:XX
   118A0:AL 118E0:NU 118EA:AL 118F3:XX 118FF:AL 11907:XX 11909:AL 1190A:XX 1190C:AL
   11914:XX 11915:AL 11917:XX 11918:AL 11930:CM 11936:XX 11937:CM 11939:XX 1193B:CM
   1193F:AL 11940:CM 11941:AL 11942:CM 11944:BA 11947:XX 11950:NU 1195A:XX 119A0:AL
   119A8:XX 119AA:AL 119D1:CM 119D8:XX 119DA:CM 119E1:AL 119E2:BB 119E3:AL 119E4:CM
   119E5:XX 11A00:AL 11A01:CM 11A0B:AL 11A33:CM 11A3A:AL 11A3B:CM 11A3F:BB 11A40:AL
   11A41:BA 11A45:BB 11A46:AL 11A47:CM 11A48:XX 11A50:AL 11A51:CM 11A5C:AL 11A8A:CM
   11A9A:BA 11A9D:AL 11A9E:BB 11AA1:BA 11AA3:XX 11AB0:AL 11AF9:XX 11B00:BB 11B0A:XX
   11C00:AL 11C09:XX 11C0A:AL 11C2F:CM 11C37:XX 11C38:CM 11C40:AL 11C41:BA 11C46:XX
   11C50:NU 11C5A:AL 11C6D:XX 11C70:BB 11C71:EX 11C72:AL 11C90:XX 11C92:CM 11CA8:XX
   11CA9:CM 11CB7:XX 11D00:AL 11D07:XX 11D08:AL 11D0A:XX 11D0B:AL 11D31:CM 11D37:XX
   11D3A:CM 11D3B:XX 11D3C:CM 11D3E:XX 11D3F:CM 11D46:AL 11D47:CM 11D48:XX 11D50:NU
   11D5A:XX 11D60:AL 11D66:XX 11D67:AL 11D69:XX 11D6A:AL 11D8A:CM 11D8F:XX 11D90:CM
   11D92:XX 11D93:CM 11D98:AL 11D99:XX 11DA0:NU 11DAA:XX 11EE0:AL 11EF3:CM 11EF7:AL
   11EF9:XX 11F00:CM 11F02:AL 11F03:CM 11F04:AL 11F11:XX 11F12:AL 11F34:CM 11F3B:XX
   11F3E:CM 11F43:BA 11F45:ID 11F50:NU 11F5A:XX 11FB0:AL 11FB1:XX 11FC0:AL 11FDD:PO
   11FE1:AL 11FF2:XX 11FFF:BA 12000:AL 1239A:XX 12400:AL 1246F:XX 12470:BA 12475:XX
   12480:AL 12544:XX 12F90:AL 12FF3:XX 13000:AL 13258:OP 1325B:CL 1325E:AL 13282:CL
   13283:AL 13286:OP 13287:CL 13288:OP 13289:CL 1328A:AL 13379:OP 1337A:CL 1337C:AL
   13430:GL 13437:OP 13438:CL 13439:GL 1343C:OP 1343D:CL 1343E:OP 1343F:CL 13440:CM
   13441:AL 13447:CM 13456:XX 14400:AL 145CE:OP 145CF:CL 145D0:AL 14647:XX 16800:AL
   16A39:XX 16A40:AL 16A5F:XX 16A60:NU 16A6A:XX 16A6E:BA 16A70:AL 16ABF:XX 16AC0:NU
   16ACA:XX 16AD0:AL 16AEE:XX 16AF0:CM 16AF5:BA 16AF6:XX 16B00:AL 16B30:CM 16B37:BA
   16B3A:AL 16B44:BA 16B45:AL 16B46:XX 16B50:NU 16B5A:XX 16B5B:AL 16B62:XX 16B63:AL
   16B78:XX 16B7D:AL 16B90:XX 16E40:AL 16E97:BA 16E99:AL 16E9B:XX 16F00:AL 16F4B:XX
   16F4F:CM 16F50:AL 16F51:CM 16F88:XX 16F8F:CM 16F93:AL 16FA0:XX 16FE0:NS 16FE4:GL
   16FE5:XX 16FF0:CM 16FF2:XX 17000:ID 187F8:XX 18800:ID 18B00:AL 18CD6:XX 18D00:ID
   18D09:XX 1AFF0:AL 1AFF4:XX 1AFF5:AL 1AFFC:XX 1AFFD:AL 1AFFF:XX 1B000:ID 1B123:XX
   1B132:CJ 1B133:XX 1B150:CJ 1B153:XX 1B155:CJ 1B156:XX 1B164:CJ 1B168:XX 1B170:ID
   1B2FC:XX 1BC00:AL 1BC6B:XX 1BC70:AL 1BC7D:XX 1BC80:AL 1BC89:XX 1BC90:AL 1BC9A:XX
   1BC9C:AL 1BC9D:CM 1BC9F:BA 1BCA0:CM 1BCA4:XX 1CF00:CM 1CF2E:XX 1CF30:CM 1CF47:XX
   1CF50:AL 1CFC4:XX 1D000:AL 1D0F6:XX 1D100:AL 1D127:XX 1D129:AL 1D165:CM 1D16A:AL
   1D16D:CM 1D183:AL 1D185:CM 1D18C:AL 1D1AA:CM 1D1AE:AL 1D1EB:XX 1D200:AL 1D242:CM
   1D245:AL 1D246:XX 1D2C0:AL 1D2D4:XX 1D2E0:AL 1D2F4:XX 1D300:AL 1D357:XX 1D360:AL
   1D379:XX 1D400:AL 1D455:XX 1D456:AL 1D49D:XX 1D49E:AL 1D4A0:XX 1D4A2:AL 1D4A3:XX
   1D4A5:AL 1D4A7:XX 1D4A9:AL 1D4AD:XX 1D4AE:AL 1D4BA:XX 1D4BB:AL 1D4BC:XX 1D4BD:AL
   1D4C4:XX 1D4C5:AL 1D506:XX 1D507:AL 1D50B:XX 1D50D:AL 1D515:XX 1D516:AL 1D51D:XX
   1D51E:AL 1D53A:XX 1D53B:AL 1D53F:XX 1D540:AL 1D545:XX 1D546:AL 1D547:XX 1D54A:AL
   1D551:XX 1D552:AL 1D6A6:XX 1D6A8:AL 1D7CC:XX 1D7CE:NU 1D800:AL 1DA00:CM 1DA37:AL
   1DA3B:CM 1DA6D:AL 1DA75:CM 1DA76:AL 1DA84:CM 1DA85:AL 1DA87:BA 1DA8B:AL 1DA8C:XX
   1DA9B:CM 1DAA0:XX 1DAA1:CM 1DAB0:XX 1DF00:AL 1DF1F:XX 1DF25:AL 1DF2B:XX 1E000:CM
   1E007:XX 1E008:CM 1E019:XX 1E01B:CM 1E022:XX 1E023:CM 1E025:XX 1E026:CM 1E02B:XX
   1E030:AL 1E06E:XX 1E08F:CM 1E090:XX 1E100:AL 1E12D:XX 1E130:CM 1E137:AL 1E13E:XX
   1E140:NU 1E14A:XX 1E14E:AL 1E150:XX 1E290:AL 1E2AE:CM 1E2AF:XX 1E2C0:AL 1E2EC:CM
   1E2F0:NU 1E2FA:XX 1E2FF:PR 1E300:XX 1E4D0:AL 1E4EC:CM 1E4F0:NU 1E4FA:XX 1E7E0:AL
   1E7E7:XX 1E7E8:AL 1E7EC:XX 1E7ED:AL 1E7EF:XX 1E7F0:AL 1E7FF:XX 1E800:AL 1E8C5:XX
   1E8C7:AL 1E8D0:CM 1E8D7:XX 1E900:AL 1E944:CM 1E94B:AL 1E94C:XX 1E950:NU 1E95A:XX
   1E95E:OP 1E960:XX 1EC71:AL 1ECAC:PO 1ECAD:AL 1ECB0:PO 1ECB1:AL 1ECB5:XX 1ED01:AL
   1ED3E:XX 1EE00:AL 1EE04:XX 1EE05:AL 1EE20:XX 1EE21:AL 1EE23:XX 1EE24:AL 1EE25:XX
   1EE27:AL 1EE28:XX 1EE29:AL 1EE33:XX 1EE34:AL 1EE38:XX 1EE39:AL 1EE3A:XX 1EE3B:AL
   1EE3C:XX 1EE42:AL 1EE43:XX 1EE47:AL 1EE48:XX 1EE49:AL 1EE4A:XX 1EE4B:AL 1EE4C:XX
   1EE4D:AL 1EE50:XX 1EE51:AL 1EE53:XX 1EE54:AL 1EE55:XX 1EE57:AL 1EE58:XX 1EE59:AL
   1EE5A:XX 1EE5B:AL 1EE5C:XX 1EE5D:AL 1EE5E:XX 1EE5F:AL 1EE60:XX 1EE61:AL 1EE63:XX
   1EE64:AL 1EE65:XX 1EE67:AL 1EE6B:XX 1EE6C:AL 1EE73:XX 1EE74:AL 1EE78:XX 1EE79:AL
   1EE7D:XX 1EE7E:AL 1EE7F:XX 1EE80:AL 1EE8A:XX 1EE8B:AL 1EE9C:XX 1EEA1:AL 1EEA4:XX
   1EEA5:AL 1EEAA:XX 1EEAB:AL 1EEBC:XX 1EEF0:AL 1EEF2:XX 1F000:ID 1F100:AI 1F10D:ID
   1F110:AI 1F12E:AL 1F130:AI 1F16A:AL 1F16D:ID 1F170:AI 1F1AD:ID 1F1E6:RI 1F200:ID
   1F385:EB 1F386:ID 1F39C:AL 1F39E:ID 1F3B5:AL 1F3B7:ID 1F3BC:AL 1F3BD:ID 1F3C2:EB
   1F3C5:ID 1F3C7:EB 1F3C8:ID 1F3CA:EB 1F3CD:ID 1F3FB:EM 1F400:ID 1F442:EB 1F444:ID
   1F446:EB 1F451:ID 1F466:EB 1F479:ID 1F47C:EB 1F47D:ID 1F481:EB 1F484:ID 1F485:EB
   1F488:ID 1F48F:EB 1F490:ID 1F491:EB 1F492:ID 1F4A0:AL 1F4A1:ID 1F4A2:AL 1F4A3:ID
   1F4A4:AL 1F4A5:ID 1F4AA:EB 1F4AB:ID 1F4AF:AL 1F4B0:ID 1F4B1:AL 1F4B3:ID 1F500:AL
   1F507:ID 1F517:AL 1F525:ID 1F532:AL 1F54A:ID 1F574:EB 1F576:ID 1F57A:EB 1F57B:ID
   1F590:EB 1F591:ID 1F595:EB 1F597:ID 1F5D4:AL 1F5DC:ID 1F5F4:AL 1F5FA:ID 1F645:EB
   1F648:ID 1F64B:EB 1F650:AL 1F676:QU 1F679:NS 1F67C:AL 1F680:ID 1F6A3:EB 1F6A4:ID
   1F6B4:EB 1F6B7:ID 1F6C0:EB 1F6C1:ID 1F6CC:EB 1F6CD:ID 1F700:AL 1F774:ID 1F780:AL
   1F7D5:ID 1F800:AL 1F80C:ID 1F810:AL 1F848:ID 1F850:AL 1F85A:ID 1F860:AL 1F888:ID
   1F890:AL 1F8AE:ID 1F900:AL 1F90C:EB 1F90D:ID 1F90F:EB 1F910:ID 1F918:EB 1F920:ID
   1F926:EB 1F927:ID 1F930:EB 1F93A:ID 1F93C:EB 1F93F:ID 1F977:EB 1F978:ID 1F9B5:EB
   1F9B7:ID 1F9B8:EB 1F9BA:ID 1F9BB:EB 1F9BC:ID 1F9CD:EB 1F9D0:ID 1F9D1:EB 1F9DE:ID
   1FA00:AL 1FA54:ID 1FAC3:EB 1FAC6:ID 1FAF0:EB 1FAF9:ID 1FB00:AL 1FB93:XX 1FB94:AL
   1FBCB:XX 1FBF0:NU 1FBFA:XX 1FC00:ID 1FFFE:XX 20000:ID 2FFFE:XX 30000:ID 3FFFE:XX
   E0001:CM E0002:XX E0020:CM E0080:XX E0100:CM E01F0:XX"

/-- Characters that are wide, full-width or half-width in East Asian text. -/
def eastAsianWide : CharSet := .ofText
  "1100 1160 20A9 20AA 231A 231C 2329 232B 23E9 23ED 23F0 23F1 23F3 23F4 25FD 25FF 2614
   2616 2648 2654 267F 2680 2693 2694 26A1 26A2 26AA 26AC 26BD 26BF 26C4 26C6 26CE 26CF
   26D4 26D5 26EA 26EB 26F2 26F4 26F5 26F6 26FA 26FB 26FD 26FE 2705 2706 270A 270C 2728
   2729 274C 274D 274E 274F 2753 2756 2757 2758 2795 2798 27B0 27B1 27BF 27C0 2B1B 2B1D
   2B50 2B51 2B55 2B56 2E80 2E9A 2E9B 2EF4 2F00 2FD6 2FF0 2FFC 3000 303F 3041 3097 3099
   3100 3105 3130 3131 318F 3190 31E4 31F0 321F 3220 3248 3250 4DC0 4E00 A48D A490 A4C7
   A960 A97D AC00 D7A4 F900 FB00 FE10 FE1A FE30 FE53 FE54 FE67 FE68 FE6C FF01 FFBF FFC2
   FFC8 FFCA FFD0 FFD2 FFD8 FFDA FFDD FFE0 FFE7 FFE8 FFEF 16FE0 16FE5 16FF0 16FF2 17000
   187F8 18800 18CD6 18D00 18D09 1AFF0 1AFF4 1AFF5 1AFFC 1AFFD 1AFFF 1B000 1B123 1B132
   1B133 1B150 1B153 1B155 1B156 1B164 1B168 1B170 1B2FC 1F004 1F005 1F0CF 1F0D0 1F18E
   1F18F 1F191 1F19B 1F200 1F203 1F210 1F23C 1F240 1F249 1F250 1F252 1F260 1F266 1F300
   1F321 1F32D 1F336 1F337 1F37D 1F37E 1F394 1F3A0 1F3CB 1F3CF 1F3D4 1F3E0 1F3F1 1F3F4
   1F3F5 1F3F8 1F43F 1F440 1F441 1F442 1F4FD 1F4FF 1F53E 1F54B 1F54F 1F550 1F568 1F57A
   1F57B 1F595 1F597 1F5A4 1F5A5 1F5FB 1F650 1F680 1F6C6 1F6CC 1F6CD 1F6D0 1F6D3 1F6D5
   1F6D8 1F6DC 1F6E0 1F6EB 1F6ED 1F6F4 1F6FD 1F7E0 1F7EC 1F7F0 1F7F1 1F90C 1F93B 1F93C
   1F946 1F947 1FA00 1FA70 1FA7D 1FA80 1FA89 1FA90 1FABE 1FABF 1FAC6 1FACE 1FADC 1FAE0
   1FAE9 1FAF0 1FAF9 20000 2FFFE 30000 3FFFE"

end Packrat
