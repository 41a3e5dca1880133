import ImageGate.Unicode.Category

/-!
# Ages

The version of the standard that a character has come with.
-/

namespace ImageGate.Unicode

/-- The versions in their order, each with the characters that it has added. -/
def ages : List Entry := [
  ⟨["1.1", "v11"],
    ["0+1F5 4+1D 38+58 7+2E 1+9 16+45 1A+1 12+1 4 3 5+6 1 1+13 1+2B 1+6 3 1 1 1 1+11 D+B 1+41",
     "1+B 1+28 9+34 2+1 2+1 3+1B 2+7 2+1 37+25 2+6 1+26 1 26+9 1+8 C+1A 5+4 17 E 3 1+19 5+12 D+D",
     "2+47 2+4 1+E 1+1D 2+9 207+2 1+34 2+11 2+4 3+18 10+2 1+7 2+1 2+15 1+6 1 3+3 2 1+6 2+1 2+2 9",
     "4+1 1+4 2+14 7 2+5 4+1 2+15 1+6 1+1 1+1 1+1 2 1+4 4+1 2+2 B+3 1 7+E C+2 1+6 1 1+2 1+15 1+6",
     "1+1 1+4 2+9 1+2 1+2 2 F 5+9 11+2 1+7 2+1 2+15 1+6 1+1 2+3 2+7 3+1 2+2 8+1 4+1 1+2 4+A 11+1",
     "1+5 3+2 1+3 3+1 1 1+1 3+1 3+2 3+7 1+2 4+4 3+2 1+3 9 F+B E+2 1+7 1+2 1+16 1+9 1+4 4+6 1+2",
     "1+3 7+1 9+1 4+9 12+1 1+7 1+2 1+16 1+9 1+4 4+6 1+2 1+3 7+1 7 1+1 4+9 12+1 1+7 1+2 1+16 1+F",
     "4+5 2+2 1+3 9 8+1 4+9 91+39 4+1C 25+1 1 2+1 1 2 6+3 1+6 1+2 1 1 2+1 1+C 1+2 2+4 1 1+5 2+9",
     "2+1 1C2+25 A+26 4 4+59 5+43 5+51 C06+9A 5+59 6+15 2+5 2+25 2+5 2+7 1 1 1 1+1E 2+34 1+E 1+D",
     "2+5 1+12 2+2 1+8 1+2E 1+16 23+6 3+1A 11+A 25+11 1E+38 1A+2F D+5A 15+F1 E 1+78 85+24 1B+A",
     "15+8A 15+95 A+4F 10+13 6+55 91+3 1+3 2+1B 1+22 1 1+3 3 1+6 2+6 E+1E 3+17 1+D 841+37 7 1+53",
     "4+5 2+5D 6+27 4+5D 1+F 60+1C 3+23 1C+1B 3+31 F+B 4+2E 1+76 4+62 2+1E 1A01+51A5 405A+1A2D",
     "D2+6 C+4 6+18 1+4 1 1+1 1+1 1+6B 21+16C 10+3F 2+35 28+B 24+3 C+14 4+9 1+12 1+3 4+2 1 1+86",
     "2 1+5D 2+5D 3+5 2+5 2+5 2+2 3+6 1+6 E+2"]⟩,
  ⟨["2.0", "v20"],
    ["591+10 1+C 14 93B+47 1+20 7+1A 4+5 1 1+14 3+6 1 EE1 20F 8B54+2BA3 1285A+1 FFFE+1 FFFE+1",
     "FFFE+1 FFFE+1 FFFE+1 FFFE+1 FFFE+1 FFFE+1 FFFE+1 FFFE+1 FFFE+1 FFFE+1 FFFE+20001"]⟩,
  ⟨["2.1", "v21"],
    ["20AC DF4F"]⟩,
  ⟨["3.0", "v30"],
    ["1F6+3 1E+7 2+11 75+4 31 A+4 57+8 13 74 3 1 1 1 1E C 42 C 2A+1 2+3 5C+1 9C C8+2 62+1 5 F",
     "2A+4 1+D 1+1D 3+1A 35+30 5D1+1 1+11 3+17 1+8 1 2+6 3 4+5 1 1+7 12+2 175 2B 17+2 7 1+2 1+E",
     "2 30+21 1+4 1+1 1+6 3+3 6+19 1A6+6 1+3E 1 1+3 2+6 1 1+3 2+26 1 1+3 2+1E 1 1+3 2+6 1 1+3",
     "2+6 1+6 1+16 1+1E 1 1+3 2+6 1+26 1+12 6+1B 23+54 C+275 9+1C 3+50 8F+5C 3+9 16+E 1+9 6+57",
     "8+29 785 18+5 5F+2 32+1 55+1 48 67+8 10D 79 1+1D 8A+1 1C9+7 21 56+1 18E+FF 580+19 1+58",
     "C+D5 1A+B 3C+2 3 161+17 248+19B5 524A+48C 3+11 2+F 1+B 1+2 1 5656 4DB+2"]⟩,
  ⟨["3.1", "v31"],
    ["3F4+1 F9DA+1F 510+1E 1+3 C+1A B5+25 2+25 CBB2+F5 A+26 3+B3 222+54 1+46 1+1 2 2+1 2+3 1+B 1",
     "1+3 1+1 1+40 1+3 2+7 1+6 1+1B 1+3 1+4 1 3+6 1+151 4+121 4+31 2800+A6D6 5129+21D B05E3",
     "1E+5F"]⟩,
  ⟨["3.2", "v32"],
    ["220 12E 13+C 68+1 1C 93+1 39+1 2+1 2+1 31+F 15E+1 141 945+1 607+C 1+6 B+16 9+13 C+C 1+2",
     "1+1 8D3 6+4 4 7+4 D 3E+1 32+6 52+E A8+B F2+D 7C 1E+33 11C+13 97+9 58+7 16+1 5A+B 2+9 DE+D",
     "5A+1B 4+F 100+1FF 53B+2 57+1 8+1 5E F0+F 51+E 51+E 71E2+1 10 C 3 556A+3A 391 3+F 35+1 2C",
     "EB+1"]⟩,
  ⟨["4.0", "v40"],
    ["221 12+2 77+1 3F+10 50+7 5+2 97+4 204+3 9+8 40+2 95+1 F 2D+2 1D+2 1B4 B8 43 1 88 54+2 D 43",
     "3B 81+7 C1+1 B1F 12+9 106+1C 3+B 4+B 4 3+29 2+4 6B+1F 300+6B 2E7+1 E6 293+1 12E 114+1 74+7",
     "E+1 45E+D 70F+1 31 2B+1 4E+3 A7+3 63+1 1F 19C0+3F AFFD 49+1 1B7+B 1+19 1+12 1+1 1+E 2+D",
     "22+7A 5+2 4+2C 3+8 240+1D 1 86+1 26+4F 2+9 356+5 2 1+2B 1+1 3 2 CAC0+56 16A C2C3E+EF"]⟩,
  ⟨["4.1", "v41"],
    ["237+A 116+4 9F+3 F6+1 AA 22+2 43 12 3A+5 F1+1D 20F 50 1E7 2F 3E9+1 127+1 1 10A 3F 3F 27 1F",
     "1F 1F F 27 17+1 1F+19 5E6+29 6+19 6+9 4+1 20+1B 2+1 34C+57 291+1 1+6 31+4 1D+3 35 50 F",
     "284+A 23C 65+1 12+A 5+F 10E+6 347+5 EC+2E 1+2E 21+6A E+2C A+35 9 10+16 9+6 1+6 1+6 1+6 1+6",
     "1+6 1+6 1+6 21+17 4+1 3A2+F AE 6D27+15 744+16 E9+2B 5244+69 336+9 326+4A 215+23 4+D 62A+3",
     "1+1 5+7 1+2 1+1A 4+2 4+8 8+8 C7A7+45 45E+1"]⟩,
  ⟨["5.0", "v50"],
    ["242+D 12B+2 151 2A+5 10+3 A6 205+3A 180+1 1+1 362+1 D+1 E0D+4B 4+2C 247+6 33+1 2EC+3 5D+1",
     "35 257+B 2CA 114+3 349+6 5+3 13C+C 7+3 7A9F+3 5+1 11E+37 6088+19 5 16E0+36E 91+62 D+3",
     "AEEC+11 458+1"]⟩,
  ⟨["5.1", "v51"],
    ["370+3 2+1 57 B7 8C+F E2+4 B+4 20+4 12E+11 1F1+1 DE 23 CE 1D+1 6C 6C 1A+1 8+1 14+7 BD 6",
     "1D+1 C+5 3+6 1EB+1 61 3+2 4D 5 2 7+2 4+5 1A+3F 4+1 80A 2D5+2A 3+B 46+37 3+E 3+32 14B+1B",
     "B5+3 5A+5 164 8B 5E 35+3 514 15+9 3+3 108 1F+3 32B+4 4+28 3+4 118+2 1+2 4+5 162+1F 18+3",
     "2+12 2FC A2+13 6DD8+7 53C+12B 14+1F 2+11 8+1B 83+4 2+6A 6E+4 80+44 9+B 26+53 B A0+36 9+D",
     "2+9 2+3 53C4+2 369+B 34+2D 82+1C 3+30 64F+19 5 C7E9 1ED6+2B 4+63"]⟩,
  ⟨["5.2", "v52"],
    ["524+1 2DA+2D 2+E C1 4D 6 23+1 80 5D9+3 C1+3 BC+4 44+4 52+5 200 276+8 230+45 B4+1 2E 45+3E",
     "1+1C 2+A 6+9 6+D 222+22 10A 2B8+2 97+2 36 25E 2B5+1 1D+2 4+9 1+12 1 4+17 57 3FD+4 116 D+1",
     "6B+6 13F 412+B 6D74+7 504+2F 1A0+57 138+9 A6+1B 64+1C 3+4D 1+A 4+1 80+1B 4+42 18+4 E0+2D",
     "2+9 2BB6+16 4+30 226F+2 DD2+15 1+8 BA+1 144+1F 80+35 3+1C 2+1A 5+7 80+48 217+1E 201+41",
     "1F3E+42E BCD1+A 5+1E 2 B 1 2 3 3+4 8 7 19 1+1 2 A+3 2 6F F+21 E+8 B4B7+1034"]⟩,
  ⟨["6.0", "v60"],
    ["526+1 F8 3E 1E0+1B 2 DB+1 13 6+1 1B+4 1FA+5 1B1 10 13 23D+3 49+1 382+1 861+33 8+3 1FC",
     "298+7 1C 32F+A 2DA 13 1+3 1D 4+1 1C 23 1 4+2 9+1 34+2 18 E E+1 5A0 E 438+2 74A5+1 12B+1",
     "1+1 E+9 50 306+5 2+5 2+5 9+6 1+6 5083+F 143E+4D 4+1D 5790+238 45C7+1 409E+E 2+D 2+E 1+E 50",
     "1+A 1 1+1 1+2 1+2 5+7 1+6 1+9 6+8 1 2+1 1+9 4+1 1+9 4B+19 1+1 2F+8 15+1 AE+20 F+5 1+45",
     "3+13 C+24 1+4 15+10 F+3E 1 1+B5 1+3 3+3D 12+17 93+4 1+F 1+2 1 1 1 1+2 1+5 2+3 1 2+3 1+B",
     "4+A 30+45 3A+73 BFCC+DD"]⟩,
  ⟨["6.1", "v61"],
    ["58F 74 29B 1+A 37+1A 1F1 3ED+1 1E7 5 2F+2 AAB+2 C+5 100+7 2B+3 AD4 1 524+1 33 5 38+1 CA+9",
     "7190 6A7+7 23 F2+1 16 4D+1 2E6+16 4F37+1 F50+37 6+1 710+18 7+9 6+34 1+D 3C+48 7+9 4A6+37",
     "8+9 5836+44 B+2E 10+10 7E60+3 1+1A 1+1 1 2 1+9 1+3 1 1 6 4 1 1 1+2 1+1 1 2 1 1 1 1 1+1 1",
     "2+3 1+6 1+3 1+3 1 1+9 1+10 5+2 1+4 1+10 34+1 278+1 3D4+3 BC 10 3 1 1 1 3 6+1 4 1+1 4"]⟩,
  ⟨["6.2", "v62"],
    ["20BA"]⟩,
  ⟨["6.3", "v63"],
    ["61C 1A49+3"]⟩,
  ⟨["7.0", "v70"],
    ["37F 1A8+7 5D+1 76 29B B+5 4C 78 7 27F 33 4C 7F E4+9 901+7 224+1 191+E 239+1 ED+E 2C5+2",
     "336+6 305 44C+2 A+19 2+1F 2+21 3+B 1+7 26A+6 7855+5 F6+B B+2 2+1 45 1E8+1E 7D+3 B0+2F 4+1",
     "52C1+6 35D+1 13 13F+1B 23 30+2A 185+27 8+33 B 90+136 9+15 A+7 F8+3E 8+8 1D0+1F 20+26 4+B",
     "89+11 7+3 C+6 4CF D0+26 56 C 6+13 B+11 1+2A 72+3A 5+9 7+2 1+7 2+1 2+15 1+6 1+1 1+4 2+8 2+1",
     "2+2 9 5+6 2+6 3+4 10B+47 8+9 A6+35 2+11 36+44 B+9 246+52 C 1C0+38 876+29 CA+B 5 45CB+1E",
     "1+9 4+1 60+1D 2+5 A+45 A+9 1+6 1+14 5+12 5070+6A 5+C 3+8 7+9 2+7 2B5C+C4 2+F 7E8 20+15",
     "15+1 214+B 9 46 16+B 25 5+3 5+B 11+6 47 1 B6 4+1 3F+1 4+6 1D+11 1+28 1+55 46+1 D+2F 46+9",
     "10+C 3+3 8C+54 2B+B 4+37 8+9 6+27 8+1D"]⟩,
  ⟨["8.0", "v80"],
    ["8B3+1 2E 215 160 104 695 2+5 CC0 CB+1 A60+3 73DD+8 6C8 F0 22+5 144+1 262+3 C+4F 526E+1",
     "AB0+12 1+1 5+4 BC+1 2+F 2+2D 280+32 D+32 7+5 4C9+3 E+4 A0+6 1 1+3 1+E 1+A 56 4F 279+13",
     "122+19 3+E 4+F C59 E6+C3 1EBC+246 8B97+A 617+28B F+4 1+E 187D+2 4E+1 4F+4 24+7 FF 4B+4",
     "F3+1 8B 23F+8 67+4 3B BE5F+1681"]⟩,
  ⟨["9.0", "v90"],
    ["8B6+7 16+E 39D CE 4+2 1+6 17+2 F07+8 172 5FF+3 A44+1 7969 116 58C7+1 321+23 4+23 D42",
     "1C1+59 1 1 202+C 593+8 1+2C 1+D A+1C 3+1F 2+15 1+D 5329 1F+17EC 13+2F2 550D+6 1+10 2+6 1+1",
     "1+4 8D5+4A 5+9 4+1 83B+11 8E 33E 29 12C+1 21+2 222+5 1+7 8 2+B 1+B 4+E 26+C"]⟩,
  ⟨["10.0", "v100"],
    ["860+A 191+1 FC+5 200 3A+1 FBA FE+3 2C5 33F 7D2 272+4 2E4 6EA7+14 6342+2 16D0+47 8+33 2+16",
     "1+4 25D+6 1+1 1+2B 3 1+1 1+8 8+9 5287 4020+11C 51+18B 3F64+5 46D+1 22+1 207+B 13 8+7 1+1",
     "19 12+C 26+5 38+16 D4C9+1D30"]⟩,
  ⟨["11.0", "v110"],
    ["560 27 66 20D+2 D3 12A 77 18D 7F BF3 417+2A 2+2 EFA+2 16+18 4+E 24B+4 2E0 6EBB+4 7BF 8+1",
     "144+1 6134+1 12 2B7+27 8+9 1C6+27 8+29 173 76+2 1F4 122 2BB E5+3B 261 2C2+5 1+1 1+24 1+1",
     "1+5 7+9 136+18 4F47+5A 1952+4 4AEE+13 7E+6 18F8+43 47A 5C9 DB+3 174+2 1C+4 2+3 3 1+3 18+A",
     "D+9 7+1 24+18 60+D"]⟩,
  ⟨["12.0", "v120"],
    ["C77 20E 2 2 1+5 4 7 7+1 2 D E3F ECE 35 24F 796A+5 2+4 39F+1 6478+16 468 258 2E7+7 2+2D 2+A",
     "9F+1 53A+31 D 1430+8 3B0C+5 4 2F+8 5A+1 180E+5 2958+2 11+3 2F98+2C 3+D 2+9 4+1 170+39 5",
     "64B 3B5+3C 42E 568 24 E5+B 121+2 2F 31 9 29+5 3+1 A+5 3+7 2+2 30+53 1C+3 4+2 5+2 D+5"]⟩,
  ⟨["12.1", "v121"],
    ["32FF"]⟩,
  ⟨["13.0", "v130"],
    ["8BE+9 28D 1AE 7C D3D+1 10D6 2B8+2 368+4 1BF6+9 5230+C 7CA+3 2A+1 35 33B+3 5630 CE3+29 1+2",
     "2+1 FE+1B 17B 86+1 28A 5+1 49E+6 2 2+7 1+1 1+1D 1+1 2+B 9+9 656 5033 B+1 1B01+1E2 2A+8",
     "6404+2 5D+2 3D 528+1 23+1 1B3+1 5A 65 4+1 2A+1 6+2 1D A8 E+3 F+12 7+6 9+2 D+6 29+92 1+36",
     "25+9 AADD+6 5922+134A"]⟩,
  ⟨["14.0", "v140"],
    ["61D 252+1E 1+1 6+7 15 12+A 369 20 7F A2F 7 9 EF 2B1+D 7D 30+1 27B 2C5 B6E 2F 1F3+A 719F+2",
     "7C0+1 E+1 1 1+4 18+2 53CD 17D+F 7F 2E+1 770+A 1+E 1+6 1+1 1+A 1+E 1+6 1+1 1C3+5 1+29 1+8",
     "7B5+19 E6+5 4C 5F6 86+6 369+F 14D0+62 3A7D+4E 1+9 4526+3 1+6 1+1 120+3 1DDD+2D 2+16 9+73",
     "225+1 D15+1E 371+1E 531+6 1+3 1+1 1+E EDE+2 110 188 52 AE+1 2C+3 A+3 8+2 11+2 6+7 8+6",
     "ABE7+1 1055+3"]⟩,
  ⟨["15.0", "v150"],
    ["CF3 1DA 1002E+2 33F+2 8BE+9 3F6+10 1+28 3+1B 14D5 9+1C 7CDC 22 216A+13 C51+5 105+3D 21",
     "440+29 11E2 97+2 4+4 59 29B+2 F+1 24+2 B+2 1 E+1 A+1 C E+1 BC40 5C16+105F"]⟩]

/-- The characters that there were by a version, by its name. -/
def age? (name : String) : Option CharSet :=
  (ages.findIdx? (·.names.contains name)).map fun i =>
    .ofRanges ((ages.take (i + 1)).flatMap (·.members.ranges))

end ImageGate.Unicode
