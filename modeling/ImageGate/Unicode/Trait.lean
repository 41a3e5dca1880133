import ImageGate.Unicode.Category
import ImageGate.Text.Blank

/-!
# Traits

Properties that a character has or lacks.
-/

namespace ImageGate.Unicode

def traits : List Entry := [
  ⟨["ahex", "asciihexdigit"],
    ["30+9 7+5 1A+5"]⟩,
  ⟨["alpha", "alphabetic"],
    ["41+19 6+19 2F A 4 5+16 1+1E 1+1C9 4+B E+4 7 1 56 2A+4 1+1 2+3 1 6 1+2 1 1+13 1+52 1+8A 8+A5",
     "1+25 2 6+28 27+D 1 1+1 1+1 1 8+1A 4+3 1D+A 5+37 1+6 E+65 1+7 4+7 4+2 A+2 2 10+2F D+64 18+20",
     "9+1 4 5+17 2+12 13+18 7+A 5+17 1+5 11+29 A+B 3+6 6+4B 1+F 1+2 4+E D+12 1+7 2+1 2+15 1+6 1",
     "3+3 3+7 2+1 2+1 1 8 4+1 1+4 C+1 A 4+2 1+5 4+1 2+15 1+6 1+1 1+1 1+1 4+4 4+1 2+1 4 7+3 1 11+5",
     "B+2 1+8 1+2 1+15 1+6 1+1 1+4 3+8 1+2 1+1 3 F+3 15+3 4+2 1+7 2+1 2+15 1+6 1+1 1+4 3+7 2+1 2+1",
     "9+1 4+1 1+4 D 10+1 1+5 3+2 1+3 3+1 1 1+1 3+1 3+2 3+B 4+4 3+2 1+2 3 6 28+C 1+2 1+16 1+F 3+7",
     "1+2 1+2 8+1 1+2 2 2+3 1C+3 1+7 1+2 1+16 1+9 1+4 3+7 1+2 1+2 8+1 6+1 1+3 D+2 C+C 1+2 1+28 2+7",
     "1+2 1+2 1 5+3 7+4 16+5 1+2 1+11 3+17 1+8 1 2+6 8+5 1 1+7 12+1 D+39 5+6 6 33+1 1 1+4 1+17 1",
     "1+12 1+2 2+4 1 6 E+3 20 3F+7 1+23 4+12 4+F 1+23 43+36 1 2+4 10+3F A+3 2+25 1 5 2+2A 1+14C",
     "1+3 2+6 1 1+3 2+28 1+3 2+20 1+3 2+6 1 1+3 2+E 1+38 1+3 2+42 25+F 10+55 2+5 3+26B 2+10 1+19",
     "5+4A 3+A 7+13 B+14 C+13 C+C 1+2 1+1 C+33 2+12 E 4 43+58 7+2A 5+45 A+1E 1+B 4+8 17+1D 2+4",
     "B+2B 4+19 36+1B 4+3E 2+13 32 17+1 B+2 31+33 1+E 1+7 33+29 2+3 A+2B 1+A E+36 16+2 A+23 2+8",
     "7+2A 2+2 29+3 1+5 1+1 3 5+BF 27+D B+115 2+5 2+25 2+5 2+7 1 1 1 1+1E 2+34 1+6 1 3+2 1+6 3+3",
     "2+5 4+C 5+2 1+6 74 D 10+C 65 4 2+9 1 3+4 6 1 1 1+3 1+A 2+3 5+4 4 11+28 32D+33 716+E4 6+3 3+1",
     "C+25 1 5 2+37 7 10+16 9+6 1+6 1+6 1+6 1+6 1+6 1+6 1+6 1+1F 2F 1D5+2 19+8 7+4 2+4 4+55 6+2",
     "1+59 1+3 5+2A 1+5D 11+1F 30+F 200+19BF 40+568C 43+2D 2+10C 3+F A+1 14+2E 5+7 3+70 27+8 2+66",
     "2+3F 5+1 1 1+4 18+13 1+20 18+33 C+43 1 2C+5 3 1+2 A+20 5+22 D+1C 3+32 1+B F 10+F A+4 1+36",
     "9+D 12+16 3+44 1 1 18+2 2+F 2+3 B+5 2+5 2+5 9+6 1+6 1+2A 1+D 6+7A 15+2BA3 C+16 4+30 2104+16D",
     "2+69 26+6 C+4 5+B 1+C 1+4 1 1+1 1+1 1+6B 21+16A 12+3F 2+35 28+B 74+4 1+86 24+19 6+19 B+58",
     "3+5 2+5 2+5 2+2 23+B 1+19 1+12 1+1 1+E 2+D 22+7A 45+34 10B+1C 3+30 2F+1F D+1D 5+2A 5+1D 2+23",
     "4+7 1+4 2A+9D 12+23 4+23 4+27 8+33 C+A 1+E 1+6 1+1 1+A 1+E 1+6 1+1 43+136 9+15 A+7 18+5 1+29",
     "1+8 45+5 2 1+2B 1+1 3 2+16 A+16 9+1E 41+12 1+1 A+15 A+19 46+37 6+1 40+3 1+1 5+7 1+2 1+1C",
     "2A+1C 3+1C 23+7 1+1B 1B+35 A+15 A+12 D+11 6E+48 37+32 D+32 D+27 158+29 1+1 3+1 4E+1C A 8+15",
     "2A+11 2E+14 1B+16 9+45 2B+4 A+38 9 D+18 17+32 11+3 8+22 3 9+3F 1+3 9+1 A 1 23+11 1+21 2 6+3",
     "3E+6 1 1+3 1+E 1+9 7+38 17+3 1+7 2+1 2+15 1+6 1+1 1+4 3+7 2+1 2+1 3 6 5+6 9C+41 1+2 1+3 14+2",
     "1E+41 2+1 1 B8+35 2+6 19+5 22+3E 1 3 3B+35 2 47+1A 2+D 15+6 B9+38 67+3F 1F+7 2 2+7 1+1 1+1D",
     "1+1 2+1 2+3 5D+7 2+2D 2+5 1 1+1 1B+32 2+9 11+47 5 12+48 107+8 1+2C 1+6 1 31+1D 2+15 1+D 49+6",
     "1+1 1+2B 3 1+1 1+2 1 2+1 18+5 1+1 1+24 1+1 1+3 1 147+16 9+10 1+28 3+2 6F 4F+399 66+6E 11+C3",
     "A4C+60 F+42F 11+5 FB9+246 21B9+238 7+1E 11+4E 11+1D 12+2F 10+3 1F+14 5+12 2B0+3F 80+4A 4+38",
     "7+10 40+1 1 C+1 E+17F7 8+4D5 2A+8 22E7+3 1+6 1+1 1+122 F 1D+2 2 E+3 8+18B 904+6A 5+C 3+8 7+9",
     "4 1761+54 1+46 1+1 2 2+1 2+3 1+B 1 1+6 1+40 1+3 2+7 1+6 1+1B 1+3 1+4 1 3+6 1+153 2+18 1+18",
     "1+1E 1+18 1+1E 1+18 1+1E 1+18 1+1E 1+18 1+7 734+1E 6+5 D5+6 1+10 2+6 1+1 1+4 5+3D 21 70+2C",
     "A+6 10 141+1D 12+2B 1E4+1B 2F4+6 1+3 1+1 1+E 1+C4 3B+43 3 3 4B4+3 1+1A 1+1 1 2 1+9 1+3 1 1 6",
     "4 1 1 1+2 1+1 1 2 1 1 1 1 1+1 1 2+3 1+6 1+3 1+3 1 1+9 1+10 5+2 1+4 1+10 274+19 6+19 6+19",
     "E76+A6DF 20+1039 6+DD 2+1681 E+1D30 C1F+21D 5E2+134A 5+105F"]⟩,
  ⟨["bidic", "bidicontrol"],
    ["61C 19F1+1 1A+4 37+3"]⟩,
  ⟨["ci", "caseignorable"],
    ["27 6 B 23 1 47 4 1 4 2+1 1F7+BF 4+1 4 9+1 1 FB+6 CF 5 31+2C 1 1+1 1+1 1 2C B+5 A+A 1 23 A+14",
     "10 65+7 1+9 1+3 21 1 1E+1A 5B+A 3A+A 4 2 18+17 2B+2 2C 7+1 6+7 29+39 37 1 4+7 4 3+6 A+1 D F",
     "3A 4+3 8 14+1 1A 2+1 39 4+1 4+1 2+2 3 1E+1 3 B+1 39 4+4 1+1 4 14+1 16+5 1 3A 2 1+3 8 7+1 B+1",
     "1E 3D C 32 3 37 1+2 5+2 1+3 7+1 B+1 1D 3A 2 6 5+1 14+1 1C+1 39+1 4+3 8 14+1 1D 48 7+2 1 5A",
     "2+6 B+8 62 2+8 9 1+6 49+1 1B 1 1 37+D 1+4 1+1 5+A 1+23 9 66+3 1+5 1+1 2+1 19+1 4+2 10+3 D",
     "2+1 6 F 5E 260+2 3B2+2 1D+1 1E+1 1E+1 40+1 1+6 8 2+A 3 5 2D+4 33 41+1 22 76+2 4+1 9 6+2 DB+1",
     "2 3A 1+6 1 1 2+7 6+9 2 27 8+1E 31+3 30 1+4 1 5 28+8 C+1 20+3 2+1 1+2 38 1+1 3 1+2 3A+7 2+1",
     "40+5 52+2 1+C 1+6 4 6 3+1 32+3E D 22+64 1BD 1+2 B+2 D+2 D+2 D+1 C+4 8+1 A 2 2+4 31+4 1+9 1 D",
     "10+C 33+20 B8B+1 71+2 7D F 60+1F 2F 1D5 24+3 3+4 5 5D+5 5D+2 6F16 4E2+5 10E 62+3 1+9 1 1C+3",
     "50+1 E+21 4E 17+2 67+2 3+1 8 3 4 19+1 5 97+1 1A+11 D 26+7 19+A 2E+2 30 2+3 2+1 11 15+1 42+5",
     "2+1 2+1 C 8 23 B 33 1+2 2+1 5+1 1 1B E+1 5+1 1 64+4 9+2 79 2 4 4F30 93+10 23D+F 3 C+F 22 2",
     "A9 7 6 B 23 1 2F 2D+1 43 15+2 201 E2 95+4 405+5 1+29 1+8 246+2 1+1 5+3 28+2 4 A5+1 23D+3",
     "183+1 50+2 46+A 31+3 7B 36+E 29 2+1 A+2 31+3 2+1 2 4 A 32+2 24+4 1+7 3E C+1 34+8 A+3 2 5F+2",
     "2 1+1 6 2 9D 3+7 15+1 39+1 3 25+6 3+4 C3+7 2+2 1 17 54+5 1 4+1 1+1 EE+3 6+1 1+1 1B+1 55+7 2",
     "1+1 6A 1 2+5 1 65+2 2+3 1+4 103+8 1+1 100+1 1 4 90+3 2+1 4 20+9 28+5 2+3 8 9+5 2+2 2E+C 1+1",
     "196+6 1+5 1 52+15 2+6 1+1 1+1 7A+5 3 1+1 1+6 1 48+1 3 1 15B+1 B+1 34+4 5 1 14ED+10 6+E",
     "369A+4 3B+6 9+3 40B 3F+10 40+1 1+1 400B+3 1+6 1+1 C9E+1 1+3 125C+2D 2+16 220+2 9+F 2+6 1E+3",
     "94+2 7BB+36 4+31 8 E 16+4 1+E 550+6 1+10 2+6 1+1 1+4 5+3D 21 A0+D 170 3D+3 1FB+4 3E0+6 6D+7",
     "AAF+4 C0C01 1E+5F 80+EF"]⟩,
  ⟨["cased"],
    ["41+19 6+19 2F A 4 5+16 1+1E 1+C2 1+3 4+CF 1+23 7+1 1E+4 60 2A+3 2+1 2+3 1 6 1+2 1 1+13 1+52",
     "1+8A 8+A5 1+25 9+28 B17+25 1 5 2+2A 1+3 2A0+55 2+5 882+8 7+2A 2+2 40+BF 40+115 2+5 2+25 2+5",
     "2+7 1 1 1 1+1E 2+34 1+6 1 3+2 1+6 3+3 2+5 4+C 5+2 1+6 74 D 10+C 65 4 2+9 1 3+4 6 1 1 1+3 1+5",
     "4 2+3 5+4 4 11+1F 3+1 331+33 716+E4 6+3 3+1 C+25 1 5 7912+2D 12+1D 84+65 3+3 1+3A 5+1 1 1+4",
     "18+4 1+2 335+2A 1+D 6+4F 4F40+6 C+4 409+19 6+19 4A5+4F 60+23 4+23 74+A 1+E 1+6 1+1 1+A 1+E",
     "1+6 1+1 1C3 2+2 1+29 1+8 4C5+32 D+32 BAD+3F 5560+3F 6580+54 1+46 1+1 2 2+1 2+3 1+B 1 1+6",
     "1+40 1+3 2+7 1+6 1+1B 1+3 1+4 1 3+6 1+153 2+18 1+18 1+1E 1+18 1+1E 1+18 1+1E 1+18 1+1E 1+18",
     "1+7 734+9 1+13 6+5 105+3D 892+43 7EC+19 6+19 6+19"]⟩,
  ⟨["cwcf", "changeswhencasefolded"],
    ["41+19 5A A+16 1+7 20 1 1 1 1 1 1 1 1 1 1 1 1 1 1 1 1 1 1 1 1 1 1 1 1 1 1 1 2 1 1 1 1 1 1 1",
     "1+1 1 1 1 1 1 1 1 1 1 1 1 1 1 1 1 1 1 1 1 1 1 1 1+1 1 1 1 1+1 1 1+1 1+2 2+3 1+1 1+2 3+1 1+1",
     "1 1 1+1 1 2 1+1 1+2 1 1+1 3 7+1 1+1 1+1 1 1 1 1 1 1 1 1 2 1 1 1 1 1 1 1 1 2+1 1 1+2 1 1 1 1",
     "1 1 1 1 1 1 1 1 1 1 1 1 1 1 1 1 1 1 1 1 1 1 1 1 1 7+1 1+1 2 1+3 1 1 1 1 F6 2A 1 3 8 6 1+2 1",
     "1+1 1+10 1+8 16 C+2 3+1 1 1 1 1 1 1 1 1 1 1 1 1 1+1 2+1 1 1+1 2+32 30 1 1 1 1 1 1 1 1 1 1 1",
     "1 1 1 1 1 9 1 1 1 1 1 1 1 1 1 1 1 1 1 1 1 1 1 1 1 1 1 1 1 1 1 1 1+1 1 1 1 1 1 1 2 1 1 1 1 1",
     "1 1 1 1 1 1 1 1 1 1 1 1 1 1 1 1 1 1 1 1 1 1 1 1 1 1 1 1 1 1 1 1 1 1 1 1 1 1 1 1 1 1 2+25 30",
     "B18+25 1 5 32A+5 882+8 7+2A 2+2 140 1 1 1 1 1 1 1 1 1 1 1 1 1 1 1 1 1 1 1 1 1 1 1 1 1 1 1 1",
     "1 1 1 1 1 1 1 1 1 1 1 1 1 1 1 1 1 1 1 1 1 1 1 1 1 1 1 1 1 1 1 1 1 1 1 1 1 1 1 1 1 1 1 1 1 1",
     "5+1 2 1 1 1 1 1 1 1 1 1 1 1 1 1 1 1 1 1 1 1 1 1 1 1 1 1 1 1 1 1 1 1 1 1 1 1 1 1 1 1 1 1 1 1",
     "1 1 1 1 1 9+7 8+5 A+7 8+7 8+5 B 1 1 1 8+7 10+2F 2+2 2+5 5+2 2+5 B+3 C+4 5+2 2+5 129 3+1 6",
     "2D+F 13 332+19 730+2F 30 1+2 2 1 1 1+3 1 2 8+2 1 1 1 1 1 1 1 1 1 1 1 1 1 1 1 1 1 1 1 1 1 1 1",
     "1 1 1 1 1 1 1 1 1 1 1 1 1 1 1 1 1 1 1 1 1 1 1 1 1 1 8 1 4 794D 1 1 1 1 1 1 1 1 1 1 1 1 1 1 1",
     "1 1 1 1 1 1 1 13 1 1 1 1 1 1 1 1 1 1 1 1 1 87 1 1 1 1 1 1 3 1 1 1 1 1 1 1 1 1 1 1 1 1 1 1 1",
     "1 1 1 1 1 1 1 1 1 1 1 1 1 1 A 1 1+1 1 1 1 1 4 1 2 1 3 1 1 1 1 1 1 1 1 1 1+4 1+4 1 1 1 1 1 1",
     "1 1+3 1 6 5 1 1C 37A+4F 4F40+6 C+4 409+19 4C5+27 88+23 9C+A 1+E 1+6 1+1 6EA+32 BED+1F",
     "5580+1F 7AA0+21"]⟩,
  ⟨["cwcm", "changeswhencasemapped"],
    ["41+19 6+19 3A A+16 1+1E 1+3F 1+53 1+C 1+D 2+D 2+1 1 4+5C 1+11 6+1A 1+1 1 1+1 3+1 1 1+1 1+4 2",
     "1+1 2 7 2 1+1 3+5 5 A+1 A6 2A+3 2+1 3+2 1 6 1+2 1 1+13 1+2E 3+20 1+4 1+84 8+A5 1+25 A+26",
     "B18+25 1 5 2+2A 2+2 2A0+55 2+5 882+8 7+2A 2+2 B9 3 10 71+9B 2 1+75 2+5 2+25 2+5 2+7 1 1 1",
     "1+1E 2+34 1+6 1 3+2 1+6 3+3 2+5 4+C 5+2 1+6 129 3+1 6 1B 11+1F 3+1 331+33 716+70 1+1 1+1",
     "7+65 7+3 3+1 C+25 1 5 7912+2D 12+1B 86+D 2+3D 9+E 3+2 2+4 1+18 1+1A 5+1 4+3 1B+1 35C 1C+4F",
     "4F40+6 C+4 409+19 6+19 4A5+4F 60+23 4+23 74+A 1+E 1+6 1+1 1+A 1+E 1+6 1+1 6C3+32 D+32 BAD+3F",
     "5560+3F 7A80+43"]⟩,
  ⟨["cwl", "changeswhenlowercased"],
    ["41+19 65+16 1+6 21 1 1 1 1 1 1 1 1 1 1 1 1 1 1 1 1 1 1 1 1 1 1 1 1 1 1 1 2 1 1 1 1 1 1 1 2 1",
     "1 1 1 1 1 1 1 1 1 1 1 1 1 1 1 1 1 1 1 1 1 1+1 1 1 3+1 1 1+1 1+2 2+3 1+1 1+2 3+1 1+1 1 1 1+1",
     "1 2 1+1 1+2 1 1+1 3 7+1 1+1 1+1 1 1 1 1 1 1 1 1 2 1 1 1 1 1 1 1 1 2+1 1 1+2 1 1 1 1 1 1 1 1",
     "1 1 1 1 1 1 1 1 1 1 1 1 1 1 1 1 1 1 1 1 1 7+1 1+1 2 1+3 1 1 1 1 121 1 3 8 6 1+2 1 1+1 1+10",
     "1+8 23 8 1 1 1 1 1 1 1 1 1 1 1 5 2 1+1 2+32 30 1 1 1 1 1 1 1 1 1 1 1 1 1 1 1 1 9 1 1 1 1 1 1",
     "1 1 1 1 1 1 1 1 1 1 1 1 1 1 1 1 1 1 1 1 1+1 1 1 1 1 1 1 2 1 1 1 1 1 1 1 1 1 1 1 1 1 1 1 1 1",
     "1 1 1 1 1 1 1 1 1 1 1 1 1 1 1 1 1 1 1 1 1 1 1 1 1 1 1 1 1 1 2+25 B49+25 1 5 2D2+55 89A+2A",
     "2+2 140 1 1 1 1 1 1 1 1 1 1 1 1 1 1 1 1 1 1 1 1 1 1 1 1 1 1 1 1 1 1 1 1 1 1 1 1 1 1 1 1 1 1",
     "1 1 1 1 1 1 1 1 1 1 1 1 1 1 1 1 1 1 1 1 1 1 1 1 1 1 1 1 1 1 1 1 9 1 1 1 1 1 1 1 1 1 1 1 1 1",
     "1 1 1 1 1 1 1 1 1 1 1 1 1 1 1 1 1 1 1 1 1 1 1 1 1 1 1 1 1 1 1 1 1 1 1 9+7 8+5 A+7 8+7 8+5 B",
     "1 1 1 8+7 18+7 8+7 8+7 8+4 B+4 B+3 C+4 B+4 129 3+1 6 2D+F 13 332+19 730+2F 30 1+2 2 1 1 1+3",
     "1 2 8+2 1 1 1 1 1 1 1 1 1 1 1 1 1 1 1 1 1 1 1 1 1 1 1 1 1 1 1 1 1 1 1 1 1 1 1 1 1 1 1 1 1 1",
     "1 1 1 1 1 1 1 8 1 4 794D 1 1 1 1 1 1 1 1 1 1 1 1 1 1 1 1 1 1 1 1 1 1 13 1 1 1 1 1 1 1 1 1 1",
     "1 1 1 87 1 1 1 1 1 1 3 1 1 1 1 1 1 1 1 1 1 1 1 1 1 1 1 1 1 1 1 1 1 1 1 1 1 1 1 1 1 A 1 1+1 1",
     "1 1 1 4 1 2 1 3 1 1 1 1 1 1 1 1 1 1+4 1+4 1 1 1 1 1 1 1 1+3 1 6 5 1 1C 572B+19 4C5+27 88+23",
     "9C+A 1+E 1+6 1+1 6EA+32 BED+1F 5580+1F 7AA0+21"]⟩,
  ⟨["cwt", "changeswhentitlecased"],
    ["61+19 3A 29+17 1+7 1 1 1 1 1 1 1 1 1 1 1 1 1 1 1 1 1 1 1 1 1 1 1 1 1 1 1 1 2 1 1 1 1 1 1 1+1",
     "1 1 1 1 1 1 1 1 1 1 1 1 1 1 1 1 1 1 1 1 1 1 1 2 1 1+2 2 1 2 3 5 2 3+1 3 2 1 1 2 4 2 3 1 2 3",
     "1 4 1+1 1+1 1 1 1 1 1 1 1 1 1+1 1 1 1 1 1 1 1 1 1+2 1 1 3 1 1 1 1 1 1 1 1 1 1 1 1 1 1 1 1 1",
     "1 1 3 1 1 1 1 1 1 1 1 8 2+1 1 4 1 1 1 1+5 1+1 1 1+1 3+1 1 1+1 1+4 2 1+1 2 7 2 1+1 3+5 5 A+1",
     "A6 2B 1 3 3+2 12 1B+22 1+1 3+2 1 1 1 1 1 1 1 1 1 1 1 1+4 1 2 2 34+2F 1 1 1 1 1 1 1 1 1 1 1 1",
     "1 1 1 1 1 9 1 1 1 1 1 1 1 1 1 1 1 1 1 1 1 1 1 1 1 1 1 1 1 1 1 1 2 1 1 1 1 1 1+1 1 1 1 1 1 1",
     "1 1 1 1 1 1 1 1 1 1 1 1 1 1 1 1 1 1 1 1 1 1 1 1 1 1 1 1 1 1 1 1 1 1 1 1 1 1 1 1 1 1 31+26",
     "E70+5 882+8 F0 3 10 72 1 1 1 1 1 1 1 1 1 1 1 1 1 1 1 1 1 1 1 1 1 1 1 1 1 1 1 1 1 1 1 1 1 1 1",
     "1 1 1 1 1 1 1 1 1 1 1 1 1 1 1 1 1 1 1 1 1 1 1 1 1 1 1 1 1 1 1 1 1 1 1 1 1 1 1+6 5 1 1 1 1 1",
     "1 1 1 1 1 1 1 1 1 1 1 1 1 1 1 1 1 1 1 1 1 1 1 1 1 1 1 1 1 1 1 1 1 1 1 1 1 1 1 1 1 1+8 8+5",
     "A+7 8+7 8+5 A+7 8+7 8+D 2+7 8+7 8+7 8+4 1+1 6 3+2 1+1 8+3 2+1 8+7 A+2 1+1 156 21+F 4 34B+19",
     "746+2F 1 3+1 1 1 1 6 2 A 1 1 1 1 1 1 1 1 1 1 1 1 1 1 1 1 1 1 1 1 1 1 1 1 1 1 1 1 1 1 1 1 1 1",
     "1 1 1 1 1 1 1 1 1 1 1 1 1 1 1 8 1 4 C+25 1 5 7913 1 1 1 1 1 1 1 1 1 1 1 1 1 1 1 1 1 1 1 1 1",
     "1 13 1 1 1 1 1 1 1 1 1 1 1 1 1 87 1 1 1 1 1 1 3 1 1 1 1 1 1 1 1 1 1 1 1 1 1 1 1 1 1 1 1 1 1",
     "1 1 1 1 1 1 1 1 A 1 2 1 1 1 1 4 4 1+1 2 1 1 1 1 1 1 1 1 1 B 1 1 1 1 1 1 1 4 1 6 5 1 1C 35C",
     "1C+4F 4F40+6 C+4 429+19 4CD+27 88+23 9B+A 1+E 1+6 1+1 703+32 BCD+1F 5580+1F 7AA2+21"]⟩,
  ⟨["cwu", "changeswhenuppercased"],
    ["61+19 3A 29+17 1+7 1 1 1 1 1 1 1 1 1 1 1 1 1 1 1 1 1 1 1 1 1 1 1 1 1 1 1 1 2 1 1 1 1 1 1 1+1",
     "1 1 1 1 1 1 1 1 1 1 1 1 1 1 1 1 1 1 1 1 1 1 1 2 1 1+2 2 1 2 3 5 2 3+1 3 2 1 1 2 4 2 3 1 2 3",
     "1 5+1 1+1 1+1 1 1 1 1 1 1 1 1+1 1 1 1 1 1 1 1 1 1+1 1+1 1 3 1 1 1 1 1 1 1 1 1 1 1 1 1 1 1 1",
     "1 1 1 3 1 1 1 1 1 1 1 1 8 2+1 1 4 1 1 1 1+5 1+1 1 1+1 3+1 1 1+1 1+4 2 1+1 2 7 2 1+1 3+5 5",
     "A+1 A6 2B 1 3 3+2 12 1B+22 1+1 3+2 1 1 1 1 1 1 1 1 1 1 1 1+4 1 2 2 34+2F 1 1 1 1 1 1 1 1 1 1",
     "1 1 1 1 1 1 1 9 1 1 1 1 1 1 1 1 1 1 1 1 1 1 1 1 1 1 1 1 1 1 1 1 1 1 2 1 1 1 1 1 1+1 1 1 1 1",
     "1 1 1 1 1 1 1 1 1 1 1 1 1 1 1 1 1 1 1 1 1 1 1 1 1 1 1 1 1 1 1 1 1 1 1 1 1 1 1 1 1 1 1 1",
     "31+26 B48+2A 2+2 2F8+5 882+8 F0 3 10 72 1 1 1 1 1 1 1 1 1 1 1 1 1 1 1 1 1 1 1 1 1 1 1 1 1 1",
     "1 1 1 1 1 1 1 1 1 1 1 1 1 1 1 1 1 1 1 1 1 1 1 1 1 1 1 1 1 1 1 1 1 1 1 1 1 1 1 1 1 1 1 1 1 1",
     "1 1+6 5 1 1 1 1 1 1 1 1 1 1 1 1 1 1 1 1 1 1 1 1 1 1 1 1 1 1 1 1 1 1 1 1 1 1 1 1 1 1 1 1 1 1",
     "1 1 1 1 1+8 8+5 A+7 8+7 8+5 A+7 8+7 8+D 2+34 1+1 4 1 3+2 1+1 4 3+3 2+1 8+7 A+2 1+1 4 151",
     "21+F 4 34B+19 746+2F 1 3+1 1 1 1 6 2 A 1 1 1 1 1 1 1 1 1 1 1 1 1 1 1 1 1 1 1 1 1 1 1 1 1 1 1",
     "1 1 1 1 1 1 1 1 1 1 1 1 1 1 1 1 1 1 1 1 1 1 8 1 4 C+25 1 5 7913 1 1 1 1 1 1 1 1 1 1 1 1 1 1",
     "1 1 1 1 1 1 1 1 13 1 1 1 1 1 1 1 1 1 1 1 1 1 87 1 1 1 1 1 1 3 1 1 1 1 1 1 1 1 1 1 1 1 1 1 1",
     "1 1 1 1 1 1 1 1 1 1 1 1 1 1 1 A 1 2 1 1 1 1 4 4 1+1 2 1 1 1 1 1 1 1 1 1 B 1 1 1 1 1 1 1 4 1",
     "6 5 1 1C 35C 1C+4F 4F40+6 C+4 429+19 4CD+27 88+23 9B+A 1+E 1+6 1+1 703+32 BCD+1F 5580+1F",
     "7AA2+21"]⟩,
  ⟨["dash"],
    ["2D 55C 33 E41 405 809+5 3D 27 F 186 C04 2 1F+1 4 1C 1BE 13 6F CD90+1 25 A A9 F9F"]⟩,
  ⟨["di", "defaultignorablecodepoint"],
    ["AD 2A1 2CC B42+1 653+1 55+4 7FB+4 1A+4 31+F 10F4 CC9B+F EF A0 4F+8 BCA7+3 14CF+7 C2E85+FFF"]⟩,
  ⟨["dep", "deprecated"],
    ["149 529 903 1 829+1 8C5+5 2B9+1 DDCD6"]⟩,
  ⟨["dia", "diacritic"],
    ["5E 1 47 6 4 2+1 1F7+9E 1+7 5+5 11+1 4 9+1 FD+4 D1 37+10 1+1A 1 1+1 1 86+7 4+1 86+1 4+1 3+2",
     "43+1A 5B+A 3A+A 22+1 7E+7 29+9 10+1B 3D 10 3+3 1C 4A 10 6E 10 6E 10 2F+2 3C 10 7 77 6E 10 6E",
     "10 6D+1 10 7C 7C+5 1 6B D+4 4B+1 1B 1 1 4+1 42+2 1+1 3E 70 1+1 28+1 4+4 19+6 1 A+1 2C1+2",
     "3B4+1 B3+A 9 15B+2 139+7 2 30+E 2+A 68 F 26+8 36+1 8A+1 40+5 52+18 4 6 2+2 32+3E 59+B 25+A",
     "1BD 1+2 B+2 D+2 D+2 D+1 CF0+2 13D 1FA+5 69+3 5F 7572 C+1 1 1C+1 52+1 E+21 66+2 6D+1 CA 1B+11",
     "39+3 24 5F C 24 95+2 41+3 33 64+4 9+2 80+1 4F30 301+F 10E 1 2F 2D+1 43 2FC 49F+5 1+29 1+8",
     "32A+1 23B+5 1D5+2 46+A 31+3 C0 29 48+1 78+1 3E 4C 9+2 68+1 B2+1 51 10 18+6 3+4 CD 3 7B+1",
     "FB+1 7E 76+1 73 10D+1 102+1 4 9C 53 12 51 1A5 102 1+1 51 16AF+E 369A+4 3B+6 458+10 50+1",
     "3FFE+3 1+6 1+1 1F01+2D 2+16 220+2 3+5 8+7 2+6 1E+3 E82+3D C2+6 177 3D+3 5E0+6 6D+2 1+2"]⟩,
  ⟨["emoji"],
    ["23 6 5+9 6F 4 1F8D C D8 16 5A+5 F+1 16F+1 C A6 19+A 4+2 C7 E7+1 A 9 3A+3 1+4 9 2 2+1 2 4 2",
     "1+1 2 3 3+1 8+2 5 1 5+B B+1 2 1+1 1 12 2+1 12+5 1 1+1 3+1 5 2+1 4+1 B+1 5+1 2 5+1 1 1+1 14+1",
     "5+5 1+3 2 4 2 2+5 1 2 1 1 6 3 6 A+1 F 2 4 1 4+2 1 B+1 30+2 9 E E 174+1 1CF+2 13+1 33 4 4DA C",
     "259 1 1BD6A CA A0+1 C+1 E 2+9 4B+19 1+1 17 14 2+8 15+1 AE+21 2+6F 2+1 1+2 2+52 2+2 1+106",
     "1+3E B+5 1+17 7+1 2+7 C 2+3 2 4+1 D+1 2 8+1 9 5+2 C+2 8+2 2 1 4 6 3 6+55 30+45 5+7 2+2 4+9 3",
     "1+1 3 2+9 E3+B 4 11B+2E 1+9 1+B8 70+C 3+8 7+2D 1+6 8+D 4+8 7+8"]⟩,
  ⟨["ecomp", "emojicomponent"],
    ["23 6 5+9 1FD3 D5 DD2B F3D6+19 1FB+4 5B0+3 C066C+5F"]⟩,
  ⟨["emod", "emojimodifier"],
    ["1F3FB+4"]⟩,
  ⟨["ebase", "emojimodifierbase"],
    ["261D DB 10+3 1CC77 3C+2 2 2+2 75+1 2+A 15+12 3 4+2 1+2 7 1 18 C9+1 4 15 4+1 AE+2 3+4 53 10+2",
     "9 B 23F 2 8+7 6 9+9 2+2 38 3D+1 1+1 1 11+2 1+C E5+2 2A+8"]⟩,
  ⟨["epres", "emojipresentation"],
    ["231A+1 CD+3 3 2 209+1 15+1 32+B 2B 13 D 8+1 11+1 5+1 8 5 15 7+1 1 4 2 7 4+1 1C 23 1 4+2 1",
     "3D+2 18 E 35B+1 33 4 1C4AE CA BE 2+9 4B+19 1 18 14 2+4 1+2 15+1 AE+20 C+8 1+45 1+15 C+2A 4+4",
     "C+10 3 3+46 1 1+BA 2+3E D+3 1+17 12 1A+1 D 56+54 30+45 6 3+2 2+2 4+3 B+1 7+8 E3+B 4 11B+2E",
     "1+9 1+B8 70+C 3+8 7+2D 1+6 8+D 4+8 7+8"]⟩,
  ⟨["extpict", "extendedpictographic"],
    ["A9 4 1F8D C D8 16 5A+5 F+1 16F+1 C 5F 46 19+A 4+2 C7 E7+1 A 9 3A+3 1+5 1+B 1+71 A+75 2+A 1 1",
     "6 3 6 A+1 F 2 4 1 4+2 1 B+4 2D+2 9 E E 174+1 1CF+2 13+1 33 4 4DA C 259 1 1BD66+FF D+2 1F",
     "3C+5 C+1 E 2+9 12+38 1B+E A 14 2+8 1+3 9+1B1 5+13D 8+109 30+7F 74+B 55+2A C+3 38+7 A+5 28+7",
     "1E+51 C+2E 1+9 1+1B8 100+3FD"]⟩,
  ⟨["ext", "extender"],
    ["B7 218+1 36E 1B9 35A 2F0 7F 943 38 263 18E 44 1389 2B+4 67+1 5D+2 6F16 5F6 3C2 16 89 6C 15+1",
     "547B 810+1 BDA 268+2 4CF 50A9+1 49C+1 1 7158+1 806+2"]⟩,
  ⟨["grbase", "graphemebase"],
    ["20+5E 21+C 1+251 70+7 2+5 4+6 1 1+13 1+DF 7+A5 1+25 2+31 2+2 2E 1 2 2 9+1A 4+5 11+9 B 1+2D",
     "15+F 1+64 8 6+1 2 4+1F 2 1+1D 1D+58 B E+2A 9+6 3+17 4 9 3 7+E 1+18 5 1+A 5+1E 11+29 39+36 1",
     "1+3 8+3 1+2 7+9 2+1C 1+1 1+7 2+1 2+15 1+6 1 3+3 3 1+1 6+1 2+1 1 D+1 1+2 4+17 5 1+5 4+1 2+15",
     "1+6 1+1 1+1 1+1 4+2 18+3 1 7+9 2+2 1 C 1+8 1+2 1+15 1+6 1+1 1+4 3+3 8 1+1 3 F+1 4+B 7 8+1",
     "1+7 2+1 2+15 1+6 1+1 1+4 3 2 6+1 2+1 F+1 1+2 4+11 B 1+5 3+2 1+3 3+1 1 1+1 3+1 3+2 3+B 5 1+1",
     "3+2 1+2 3 15+14 6+2 1+7 1+2 1+16 1+F 3 3+3 13+2 2 2+1 4+9 7+9 1+A 1+2 1+16 1+9 1+4 3+1 1+1",
     "1+1 2+1 1+1 11+1 1+1 4+9 1+2 E+A 1+2 1+28 2 1+1 5+2 1+2 1+1 4+2 1+9 4+19 2+1 1+11 3+17 1+8 1",
     "2+6 9+1 6+6 7+9 2+2 C+2F 1+1 B+7 8+C 25+1 1 1+4 1+17 1 1+9 1+1 9 2+4 1 9+9 2+3 20+17 2+1A 1",
     "1 1+D 1+23 12 5 2+4 31+7 1+5 1+C 25+2C 4 6 2+1 2+18 2+3 3+F 4+C 1+1 2+5 1+E 1+27 1 5 2+178",
     "1+3 2+6 1 1+3 2+28 1+3 2+20 1+3 2+6 1 1+3 2+E 1+38 1+3 2+42 5+1C 3+19 6+55 2+5 2+29C 3+58",
     "7+11 3 9+12 2+2 9+11 E+C 1+2 F+33 2 7+7 1+1 B+8 3+9 6+9 6+A 5+9 6+58 7+4 2+21 1 5+45 A+1E",
     "4+3 2+2 4+1 1+5 7 3+29 2+4 B+2B 4+19 6+A 3+38 2+1 3+37 1 9 1+1 8+5 D+9 6+9 6+D 56+2F 7 1+4",
     "1+9 3+1A 9+A 3+1F 4+1 2 3+37 1 2+2 1 3+1 8+2F 8+1 5+E 3+3B 7+2A 2+A B D 7+3 1+5 1+2 2 5+BF",
     "40+115 2+5 2+25 2+5 2+7 1 1 1 1+1E 2+34 1+E 1+D 2+5 1+12 2+2 1+8 1+A 5+17 7+30 10+1 2+1A 1+C",
     "3+20 3F+8B 4+296 19+A 15+713 2+1F 1+157 3+1 5+2C 1 5 2+37 7+1 F+16 9+6 1+6 1+6 1+6 1+6 1+6",
     "1+6 1+6 21+5D 22+19 1+58 C+D5 1A+B 4+29 6+F 1+55 4+64 5+2A 1+5D 1+53 C+2E 1+726C 3+36 9+15B",
     "14+2E 4 A+1F 2+4F 2+5 8+CA 5+1 1 1+4 18+F 1+2 1+3 1+18 2+4 4+9 6+37 8+43 A+B 18+C 1+25 8+18",
     "B+1 B+1D 6+2F 1+1 4+1 2+F 1+A 4+6 1+18 1+28 6+1 2+1 B+2 1+7 1 2+9 2+1F 1+32 1 3+1 2+4 2 1",
     "18+10 2+7 B+5 2+5 2+5 9+6 1+6 1+3B 4+74 1+1 1+3 3+9 6+2BA3 C+16 4+30 2104+16D 2+69 26+6 C+4",
     "5 1+17 1+4 1 1+1 1+1 1+7C 10+1BC 2+35 7 20+F 10+9 16+22 1+12 1+3 4+4 1+86 4+9C 2+1E 3+5 2+5",
     "2+5 2+2 3+6 1+6 D+1 2+B 1+19 1+12 1+1 1+E 2+D 22+7A 5+2 4+2C 3+57 1+C 3 2F+2C 83+1C 3+30",
     "10+1A 4+23 9+1D 5+25 A+1D 1+24 4+D 2A+9D 2+9 6+23 4+23 4+27 8+33 B+B 1+E 1+6 1+1 1+A 1+E 1+6",
     "1+1 43+136 9+15 A+7 18+5 1+29 1+8 45+5 2 1+2B 1+1 3 2+16 1+47 8+8 30+12 1+1 5+20 3+1A 5",
     "40+37 4+13 2+2E F+3 1+2 1+1C A+8 7+8 7+3F 20+24 6+B 9+35 3+1C 2+1A 5+19 7+3 C+6 50+48 37+32",
     "D+32 7+29 C+9 126+1E 1+29 3 2+1 4E+27 8+15 B+8 16+11 4+3 26+1B 14+16 9 1+35 F+6 4+1D 1+1 2",
     "C+30 4+1 2+1 1+3 E+18 7+9 9+23 5 9+11 8+22 1+2 B+33 9+9 4+1 1+F 1+13 B+11 1+1B 3+1 1 2+5 1+1",
     "3F+6 1 1+3 1+E 1+A 6+2E 1+2 D+9 8+1 1+7 2+1 2+15 1+6 1+1 1+4 3 1 1+3 2+1 2+2 2 C+6 9C+37 8+1",
     "3 1+14 1 1+2 1E+2F 1+1 6 1+1 1 2 2+3 8+9 A6+2E 1+1 6+3 2 2+1A 24+32 8+1 1 2+3 B+9 6+C 13+2A",
     "1 1+1 6 1+1 6+9 36+1A 5+1 4 9+16 B9+2E 9 2 64+52 C+7 2 2+7 1+1 1+17 1+4 1+1 4 1+3 1+2 9+9",
     "46+7 2+29 8+3 1+3 1B A+27 6+1 4+7 9 6+1 3+2D D 2+8 D+48 7+9 F6+8 1+25 E 1+5 A+1C 3+1F 19 7 2",
     "4B+6 1+1 1+25 15 9+9 6+5 1+1 1+24 4+1 1 1 7+9 136+12 2+3 9+E 1+23 8+1 1 1+16 56 F+31 D+39A",
     "66+6E 1+4 B+C3 A4C+62 D+42F 11+5 FB9+246 21B9+238 7+1E 1+9 4+50 1+9 6+1D 7 A+2F 7+E A+9 1+6",
     "1+14 5+12 2B0+5A 65+4A 5+37 B+C 40+3 C+1 E+17F7 8+4D5 2A+8 22E7+3 1+6 1+1 1+122 F 1D+2 2 E+3",
     "8+18B 904+6A 5+C 3+8 7+9 2 2 12B0+73 3C+F5 A+26 2+3B 1 3+3 15+1 7+1D 4+3C 15+41 3 7A+13 C+13",
     "C+56 9+18 87+54 1+46 1+1 2 2+1 2+3 1+B 1 1+6 1+40 1+3 2+7 1+6 1+1B 1+3 1+4 1 3+6 1+153 2+123",
     "2+231 37+3 32+7 1+D 1+6 474+1E 6+5 105+3D 92+2C A+6 2+9 4+1 140+1D 12+2B 4+9 5 1D0+1B 4+9",
     "2E6+6 1+3 1+1 1+E 1+C4 2+8 30+43 7 4+9 4+1 311+43 4C+3C C2+3 1+1A 1+1 1 2 1+9 1+3 1 1 6 4 1",
     "1 1+2 1+1 1 2 1 1 1 1 1+1 1 2+3 1+6 1+3 1+3 1 1+9 1+10 5+2 1+4 1+10 34+1 10E+2B 4+63 C+E 2+E",
     "1+E 1+24 A+AD 38+1C D+2B 4+8 7+1 E+5 9A+3D7 4+10 3+C 3+76 4+5E 6+B 4 F+B 4+37 8+9 6+27 8+1D",
     "2+1 4E+153 C+D 2+C 3+8 7+2D 1+6 8+D 4+8 7+8 7+92 1+36 25+9 406+A6DF 20+1039 6+DD 2+1681",
     "E+1D30 C1F+21D 5E2+134A 5+105F"]⟩,
  ⟨["grext", "graphemeextend"],
    ["300+6F 113+6 107+2C 1 1+1 1+1 1 48+A 30+14 10 65+6 2+5 2+1 1+3 23 1E+1A 5B+A 3A+8 9 18+3 1+8",
     "1+2 1+4 2B+2 3C+7 2A+17 1+1F 37 1 4+7 4 3+6 A+1 1D 3A 1 2+3 8 9 A+1 1A 2+1 39 4+1 4+1 2+2 3",
     "1E+1 3 B+1 39 4+4 1+1 4 14+1 16+5 1 3A 1+1 1+3 8 7+2 A+1 1E 3B 1 C 9 28 3 37 1+2 5+2 1+3 7+1",
     "B+1 1D 3A 2 2 3 5+1 7+1 B+1 1C+1 39+1 1 2+3 8 9 A+1 1D 48 4 2+2 1 8 51 2+6 C+7 62 2+8 B+6",
     "49+1 1B 1 1 37+D 1+4 1+1 5+A 1+23 9 66+3 1+5 1+1 2+1 19+1 4+2 10+3 D 2+1 6 F 2BF+2 3B2+2",
     "1D+1 1E+1 1E+1 40+1 1+6 8 2+A 9 2D+2 1 75+1 22 76+2 4+1 9 6+2 DB+1 2 3A 1+6 1 1 2+7 6+9 2",
     "30+1E 31+3 30+6 1 5 28+8 C+1 20+3 2+1 1+2 38 1+1 3 1+2 3A+7 2+1 98+2 1+C 1+6 4 6 3+1 C6+3F",
     "20C C3+20 BFE+2 8D 60+1F 22A+5 69+1 75D4+3 1+9 20+1 50+1 110 3 4 19+1 5 97+1 1A+11 D 26+7",
     "19+A 2E+2 30 2+3 2+1 27 43+5 2+1 2+1 C 8 2F 33 1+2 2+1 5+1 1 2A+1 8 EE 2 4 4F30 2E1+F 10+F",
     "16E+1 25D E2 95+4 686+2 1+1 5+3 28+2 4 A5+1 23D+3 183+1 50+2 46+A 31+3 7B 36+E 29 2+1 A+2",
     "31+3 2+1 7 3D+2 24+4 1+7 3E C+1 34+8 A+3 2 5F+2 2 1+1 6 2 9D 3+7 15+1 39+1 1 1 16 E+6 3+4",
     "C3+7 2+2 1 17 51 2+5 1 2 1+1 1+1 EB 2+3 6+1 1+1 1B+1 55+7 2 1+1 6A 1 2+5 1 65+2 2+3 1+4",
     "103+8 1+1 F5 A+1 1 4 90+3 2+1 4 20+9 28+5 2+3 8 9+5 2+2 2E+C 1+1 196+6 1+5 1 52+15 2+6 1+1",
     "1+1 7A+5 3 1+1 1+6 1 48+1 3 1 15B+1 B+1 34+4 5 1 14FD 6+E 369A+4 3B+6 418 3F+3 51 4CB8+1",
     "1261+2D 2+16 21E 1+2 4+4 8+7 2+6 1E+3 94+2 7BB+36 4+31 8 E 16+4 1+E 550+6 1+10 2+6 1+1 1+4",
     "64 A0+6 177 3D+3 1FC+3 3E0+6 6D+6 C16D5+5F 80+EF"]⟩,
  ⟨["hex", "hexdigit"],
    ["30+9 7+5 1A+5 FEA9+9 7+5 1A+5"]⟩,
  ⟨["idc", "idcontinue"],
    ["30+9 7+19 4 1+19 2F A 1 2 5+16 1+1E 1+1C9 4+B E+4 7 1 11+74 1+1 2+3 1 6+4 1 1+13 1+52 1+8A",
     "1+4 2+A5 1+25 2 6+28 8+2C 1 1+1 1+1 1 8+1A 4+3 1D+A 5+49 4+65 1+7 2+9 1+12 2 10+3A 2+64 E+35",
     "4 2 2+2D 12+1B 4+A 5+17 1+5 9+49 1+80 2+9 1+12 1+7 2+1 2+15 1+6 1 3+3 2+8 2+1 2+3 8 4+1 1+4",
     "2+B A 1 2+2 1+5 4+1 2+15 1+6 1+1 1+1 1+1 2 1+4 4+1 2+2 3 7+3 1 7+F B+2 1+8 1+2 1+15 1+6 1+1",
     "1+4 2+9 1+2 1+2 2 F+3 2+9 9+6 1+2 1+7 2+1 2+15 1+6 1+1 1+4 2+8 2+1 2+2 7+2 4+1 1+4 2+9 1",
     "10+1 1+5 3+2 1+3 3+1 1 1+1 3+1 3+2 3+B 4+4 3+2 1+3 2 6 E+9 10+C 1+2 1+16 1+F 2+8 1+2 1+3 7+1",
     "1+2 2 2+3 2+9 10+3 1+7 1+2 1+16 1+9 1+4 2+8 1+2 1+3 7+1 6+1 1+3 2+9 1+2 C+C 1+2 1+32 1+2 1+4",
     "5+3 7+4 2+9 A+5 1+2 1+11 3+17 1+8 1 2+6 3 4+5 1 1+7 6+9 2+1 D+39 5+E 1+9 27+1 1 1+4 1+17 1",
     "1+16 2+4 1 1+6 1+9 2+3 20 17+1 6+9 B 1 1 4+9 1+23 4+13 1+11 1+23 9 39+49 6+4D 2+25 1 5 2+2A",
     "1+14C 1+3 2+6 1 1+3 2+28 1+3 2+20 1+3 2+6 1 1+3 2+E 1+38 1+3 2+42 2+2 9+8 E+F 10+55 2+5",
     "3+26B 2+10 1+19 5+4A 3+A 7+15 9+15 B+13 C+C 1+2 1+1 C+53 3 4+1 2+9 21+2 1+A 6+58 7+2A 5+45",
     "A+1E 1+B 4+B A+27 2+4 B+2B 4+19 6+A 25+1B 4+3E 1+1C 2+A 6+9 D 8+D 1+F 31+4C 3+9 11+8 C+73",
     "C+37 8+9 3+30 2+8 7+2A 2+2 10+2 1+26 5+215 2+5 2+25 2+5 2+7 1 1 1 1+1E 2+34 1+6 1 3+2 1+6",
     "3+3 2+5 4+C 5+2 1+6 42+1 13 1C D 10+C 33+C 4 3+B 11 4 2+9 1 2+5 6 1 1 1+F 2+3 5+4 4 11+28",
     "A77+E4 6+8 C+25 1 5 2+37 7 F+17 9+6 1+6 1+6 1+6 1+6 1+6 1+6 1+6 1+1F 205+2 19+E 1+4 2+4 4+55",
     "2+6 1+59 1+3 5+2A 1+5D 11+1F 30+F 200+19BF 40+568C 43+2D 2+10C 3+1B 14+2F 4+9 1+72 25+8 2+66",
     "2+3F 5+1 1 1+4 18+35 4 13+33 C+45 A+9 6+17 3 1+30 2+23 C+1C 3+40 E+A 6+1E 1+36 9+D 2+9 6+16",
     "3+48 18+2 2+F 2+4 A+5 2+5 2+5 9+6 1+6 1+2A 1+D 6+7A 1+1 2+9 6+2BA3 C+16 4+30 2104+16D 2+69",
     "26+6 C+4 5+B 1+C 1+4 1 1+1 1+1 1+6B 21+16A 12+3F 2+35 28+B 4+F 10+F 3+1 18+2 20+4 1+86 13+9",
     "7+19 4 1+19 B+58 3+5 2+5 2+5 2+2 23+B 1+19 1+12 1+1 1+E 2+D 22+7A 45+34 88 82+1C 3+30 F",
     "1F+1F D+1D 5+2A 5+1D 2+23 4+7 1+4 2A+9D 2+9 6+23 4+23 4+27 8+33 C+A 1+E 1+6 1+1 1+A 1+E 1+6",
     "1+1 43+136 9+15 A+7 18+5 1+29 1+8 45+5 2 1+2B 1+1 3 2+16 A+16 9+1E 41+12 1+1 A+15 A+19 46+37",
     "6+1 40+3 1+1 5+7 1+2 1+1C 2+2 4 20+1C 3+1C 23+7 1+1D 19+35 A+15 A+12 D+11 6E+48 37+32 D+32",
     "D+27 8+9 146+29 1+1 3+1 4B+1F A 8+20 1F+15 2A+14 1B+16 9+46 1F+F 9+3B 7 D+18 7+9 6+34 1+9",
     "4+3 8+23 2 9+44 4+3 1+C 1 23+11 1+24 6+3 3E+6 1 1+3 1+E 1+9 7+3A 5+9 6+3 1+7 2+1 2+15 1+6",
     "1+1 1+4 1+9 2+1 2+2 2 6 5+6 2+6 3+4 8B+4A 5+9 4+3 1E+45 1 8+9 A6+35 2+8 17+5 22+40 3 B+9",
     "26+38 7+9 36+1A 2+E 4+9 6+6 B9+3A 65+49 15+7 2 2+7 1+1 1+1D 1+1 2+8 C+9 46+7 2+2D 2+7 1+1",
     "1B+3E 8 8+49 3 12+48 107+8 1+2C 1+8 F+9 18+1D 2+15 1+D 49+6 1+1 1+2B 3 1+1 1+8 8+9 6+5 1+1",
     "1+24 1+1 1+5 7+9 136+16 9+10 1+28 3+4 D+9 56 4F+399 66+6E 11+C3 A4C+60 F+42F 10+15 FAA+246",
     "21B9+238 7+1E 1+9 6+4E 1+9 6+1D 2+4 B+36 9+3 C+9 9+14 5+12 2B0+3F 80+4A 4+38 7+10 40+1 1+1",
     "B+1 E+17F7 8+4D5 2A+8 22E7+3 1+6 1+1 1+122 F 1D+2 2 E+3 8+18B 904+6A 5+C 3+8 7+9 3+1 1261+2D",
     "2+16 21E+4 3+5 8+7 2+6 1E+3 94+2 1BB+54 1+46 1+1 2 2+1 2+3 1+B 1 1+6 1+40 1+3 2+7 1+6 1+1B",
     "1+3 1+4 1 3+6 1+153 2+18 1+18 1+1E 1+18 1+1E 1+18 1+1E 1+18 1+1E 1+18 1+7 2+31 200+36 4+31 8",
     "E 16+4 1+E 450+1E 6+5 D5+6 1+10 2+6 1+1 1+4 5+3D 21 70+2C 3+D 2+9 4 141+1E 11+39 1D6+29",
     "2E6+6 1+3 1+1 1+E 1+C4 B+6 29+4B 4+9 4A6+3 1+1A 1+1 1 2 1+9 1+3 1 1 6 4 1 1 1+2 1+1 1 2 1 1",
     "1 1 1+1 1 2+3 1+6 1+3 1+3 1 1+9 1+10 5+2 1+4 1+10 D34+9 406+A6DF 20+1039 6+DD 2+1681 E+1D30",
     "C1F+21D 5E2+134A 5+105F ADD50+EF"]⟩,
  ⟨["ids", "idstart"],
    ["41+19 6+19 2F A 4 5+16 1+1E 1+1C9 4+B E+4 7 1 81+4 1+1 2+3 1 6 1+2 1 1+13 1+52 1+8A 8+A5",
     "1+25 2 6+28 47+1A 4+3 2D+2A 23+1 1+62 1 F+1 7+1 A+2 2 10 1+1D 1D+58 B 18+20 9+1 4 5+15 4 9 3",
     "17+18 7+A 5+17 1+5 11+29 3A+35 3 12 7+9 F+F 4+7 2+1 2+15 1+6 1 3+3 3 10 D+1 1+2 E+1 A 8+5",
     "4+1 2+15 1+6 1+1 1+1 1+1 1F+3 1 13+2 10+8 1+2 1+15 1+6 1+1 1+4 3 12 F+1 17 B+7 2+1 2+15 1+6",
     "1+1 1+4 3 1E+1 1+2 F 11 1+5 3+2 1+3 3+1 1 1+1 3+1 3+2 3+B 16 34+7 1+2 1+16 1+F 3 1A+2 2 2+1",
     "1E 4+7 1+2 1+16 1+9 1+4 3 1F+1 1+1 F+1 11+8 1+2 1+28 2 10 5+2 8+2 18+5 5+11 3+17 1+8 1 2+6",
     "3A+2F 1+1 C+6 3A+1 1 1+4 1+17 1 1+9 1+1 9 2+4 1 15+3 20 3F+7 1+23 1B+4 73+2A 14 10+5 4+3 3",
     "3+1 7+2 4+C C 11+25 1 5 2+2A 1+14C 1+3 2+6 1 1+3 2+28 1+3 2+20 1+3 2+6 1 1+3 2+E 1+38 1+3",
     "2+42 25+F 10+55 2+5 3+26B 2+10 1+19 5+4A 3+A 7+11 D+12 E+11 E+C 1+2 F+33 23 4 43+58 7+28 1",
     "5+45 A+1E 31+1D 2+4 B+2B 4+19 36+16 9+34 52 5D+2E 11+7 36+1D D+1 A+2B 1A+23 29+2 A+23 2+8",
     "7+2A 2+2 29+3 1+5 1+1 3 5+BF 40+115 2+5 2+25 2+5 2+7 1 1 1 1+1E 2+34 1+6 1 3+2 1+6 3+3 2+5",
     "4+C 5+2 1+6 74 D 10+C 65 4 2+9 1 2+5 6 1 1 1+F 2+3 5+4 4 11+28 A77+E4 6+3 3+1 C+25 1 5 2+37",
     "7 10+16 9+6 1+6 1+6 1+6 1+6 1+6 1+6 1+6 226+2 19+8 7+4 2+4 4+55 4+4 1+59 1+3 5+2A 1+5D 11+1F",
     "30+F 200+19BF 40+568C 43+2D 2+10C 3+F A+1 14+2E 10+1E 2+4F 27+8 2+66 2+3F 5+1 1 1+4 18+F 1+2",
     "1+3 1+16 1D+33 E+31 3E+5 3 1+1 B+1B A+16 19+1C 7+2E 1C 10+4 1+9 A+4 1+28 17+2 1+7 14+16 3",
     "3+31 1 3+1 2+4 2 1 18+2 2+A 7+2 C+5 2+5 2+5 9+6 1+6 1+2A 1+D 6+72 1D+2BA3 C+16 4+30 2104+16D",
     "2+69 26+6 C+4 5 1+9 1+C 1+4 1 1+1 1+1 1+6B 21+16A 12+3F 2+35 28+B 74+4 1+86 24+19 6+19 B+58",
     "3+5 2+5 2+5 2+2 23+B 1+19 1+12 1+1 1+E 2+D 22+7A 45+34 10B+1C 3+30 2F+1F D+1D 5+25 A+1D 2+23",
     "4+7 1+4 2A+9D 12+23 4+23 4+27 8+33 C+A 1+E 1+6 1+1 1+A 1+E 1+6 1+1 43+136 9+15 A+7 18+5 1+29",
     "1+8 45+5 2 1+2B 1+1 3 2+16 A+16 9+1E 41+12 1+1 A+15 A+19 46+37 6+1 40 F+3 1+2 1+1C 2A+1C",
     "3+1C 23+7 1+1B 1B+35 A+15 A+12 D+11 6E+48 37+32 D+32 D+23 15C+29 6+1 4E+1C A 8+15 2A+11",
     "2E+14 1B+16 C+34 39+1 2 D+2C 20+18 1A+23 1D 2 8+22 3 C+2F E+3 15 1 23+11 1+18 13+1 3F+6 1",
     "1+3 1+E 1+9 7+2E 26+7 2+1 2+15 1+6 1+1 1+4 3 12 C+4 9E+34 12+3 14+2 1E+2F 14+1 1 B8+2E 29+3",
     "24+2F 14 3B+2A D 47+1A 25+6 B9+2B 74+3F 1F+7 2 2+7 1+1 1+17 F 1 5E+7 2+26 10 1 1C A+27 7 15",
     "B+2D 13 12+48 107+8 1+24 11 31+1D 70+6 1+1 1+25 15 19+5 1+1 1+1F E 147+12 F 1+C 1+21 7C",
     "4F+399 66+6E 11+C3 A4C+60 F+42F 11+5 FB9+246 21B9+238 7+1E 11+4E 11+1D 12+2F 10+3 1F+14 5+12",
     "2B0+3F 80+4A 5 42+C 40+1 1 1C+17F7 8+4D5 2A+8 22E7+3 1+6 1+1 1+122 F 1D+2 2 E+3 8+18B 904+6A",
     "5+C 3+8 7+9 1766+54 1+46 1+1 2 2+1 2+3 1+B 1 1+6 1+40 1+3 2+7 1+6 1+1B 1+3 1+4 1 3+6 1+153",
     "2+18 1+18 1+1E 1+18 1+1E 1+18 1+1E 1+18 1+1E 1+18 1+7 734+1E 6+5 105+3D 92+2C A+6 10 141+1D",
     "12+2B 1E4+1B 2F4+6 1+3 1+1 1+E 1+C4 3B+43 7 4B4+3 1+1A 1+1 1 2 1+9 1+3 1 1 6 4 1 1 1+2 1+1 1",
     "2 1 1 1 1 1+1 1 2+3 1+6 1+3 1+3 1 1+9 1+10 5+2 1+4 1+10 1144+A6DF 20+1039 6+DD 2+1681 E+1D30",
     "C1F+21D 5E2+134A 5+105F"]⟩,
  ⟨["idsb", "idsbinaryoperator"],
    ["2FF0+1 2+7"]⟩,
  ⟨["idst", "idstrinaryoperator"],
    ["2FF2+1"]⟩,
  ⟨["ideo", "ideographic"],
    ["3006+1 19+8 E+2 3C5+19BF 40+51FF 5900+16D 2+69 750A 1B+17F7 8+4D5 2A+8 2467+18B 4D04+A6DF",
     "20+1039 6+DD 2+1681 E+1D30 C1F+21D 5E2+134A 5+105F"]⟩,
  ⟨["joinc", "joincontrol"],
    ["200C+1"]⟩,
  ⟨["loe", "logicalorderexception"],
    ["E40+4 7B+4 AF0+2 2 90FA+1 2 1+1"]⟩,
  ⟨["lower", "lowercase"],
    ["61+19 2F A 4 24+17 1+7 1 1 1 1 1 1 1 1 1 1 1 1 1 1 1 1 1 1 1 1 1 1 1 1 1 1 1 1+1 1 1 1 1 1 1",
     "1 1+1 1 1 1 1 1 1 1 1 1 1 1 1 1 1 1 1 1 1 1 1 1 1 1 2 1 1+2 2 1 2 3+1 4 2 3+2 2 2 1 1 2 1+1",
     "1 2 3 1 2+1 2+2 6 2 2 1 1 1 1 1 1 1 1+1 1 1 1 1 1 1 1 1 1+1 2 1 3 1 1 1 1 1 1 1 1 1 1 1 1 1",
     "1 1 1 1 1 1 1 1 1 1 1 1 1 1 1 1+6 2 2+1 1 4 1 1 1 1+44 1+23 7+1 1E+4 60 2B 1 3 2+3 12 1B+22",
     "1+1 3+2 1 1 1 1 1 1 1 1 1 1 1 1+4 1 2 2+1 33+2F 1 1 1 1 1 1 1 1 1 1 1 1 1 1 1 1 1 9 1 1 1 1",
     "1 1 1 1 1 1 1 1 1 1 1 1 1 1 1 1 1 1 1 1 1 1 2 1 1 1 1 1 1+1 1 1 1 1 1 1 1 1 1 1 1 1 1 1 1 1",
     "1 1 1 1 1 1 1 1 1 1 1 1 1 1 1 1 1 1 1 1 1 1 1 1 1 1 1 1 1 1 1 1 30+28 B47+2A 1+3 2F8+5 882+8",
     "77+BF 41 1 1 1 1 1 1 1 1 1 1 1 1 1 1 1 1 1 1 1 1 1 1 1 1 1 1 1 1 1 1 1 1 1 1 1 1 1 1 1 1 1 1",
     "1 1 1 1 1 1 1 1 1 1 1 1 1 1 1 1 1 1 1 1 1 1 1 1 1 1 1 1 1 1 1 1+8 1 1 1 1 1 1 1 1 1 1 1 1 1",
     "1 1 1 1 1 1 1 1 1 1 1 1 1 1 1 1 1 1 1 1 1 1 1 1 1 1 1 1 1 1 1 1 1 1 1 1+8 8+5 A+7 8+7 8+5",
     "A+7 8+7 8+D 2+7 8+7 8+7 8+4 1+1 6 3+2 1+1 8+3 2+1 8+7 A+2 1+1 79 D 10+C 6D 3+1 3 1B 4 4 2+1",
     "8+3 4 21+F 4 34B+19 746+2F 1 3+1 1 1 1 4 1+1 1+7 3 1 1 1 1 1 1 1 1 1 1 1 1 1 1 1 1 1 1 1 1 1",
     "1 1 1 1 1 1 1 1 1 1 1 1 1 1 1 1 1 1 1 1 1 1 1 1 1 1 1 1+1 7 1 4 C+25 1 5 7913 1 1 1 1 1 1 1",
     "1 1 1 1 1 1 1 1 1 1 1 1 1 1 1 13 1 1 1 1 1 1 1 1 1 1 1 1 1+2 85 1 1 1 1 1 1+2 1 1 1 1 1 1 1",
     "1 1 1 1 1 1 1 1 1 1 1 1 1 1 1 1 1 1 1 1 1 1 1 1+9 1 1 2 1 1 1 1 4 1 2 1+2 1 1 1 1 1 1 1 1 1",
     "1 5 5 1 1 1 1 1 1 1 4 1 6 1 1 1 1 18+2 1 1+2 335+2A 1+D 6+4F 4F40+6 C+4 429+19 4CD+27 88+23",
     "9B+A 1+E 1+6 1+1 1C3 2+2 1+29 1+8 505+32 BCD+1F 5580+1F 659A+19 1A+6 1+11 1A+19 1A+3 1 1+6",
     "1+A 1A+19 1A+19 1A+19 1A+19 1A+19 1A+19 1A+19 1A+19 1A+1B 1C+18 1+5 1A+18 1+5 1A+18 1+5",
     "1A+18 1+5 1A+18 1+5 1 734+9 1+13 6+5 105+3D 8B4+21"]⟩,
  ⟨["math"],
    ["2B 10+2 1F 1D 1 2D 4 25 1F 2D8+2 2 1A+1 2+2 20F+2 1A0D 1B+2 B 3 D E+3 15+4 B+4 41+C 4 3+1",
     "4+4 12 4 2+9 1 2+5 6 3+1 2+1 1+2 1+5 3+D 1 44+17 1+5 1+1 4+1 4+1F 1 6+1 E+10B 8+3 14+1 5A",
     "1E+1A 1 18 B+6 1BD+1 C+9 4+5 4+1 2+1 3+4 E 1 2+5 B+7 5+1 39 1 1D+3 9+2 150+3F 100+1FF 30+14",
     "2+5 CFDC 337+5 1 A2 10+2 1D 1 1D 1 83 6+3 D413+54 1+46 1+1 2 2+1 2+3 1+B 1 1+6 1+40 1+3 2+7",
     "1+6 1+1B 1+3 1+4 1 3+6 1+153 2+123 2+31 1600+3 1+1A 1+1 1 2 1+9 1+3 1 1 6 4 1 1 1+2 1+1 1 2",
     "1 1 1 1 1+1 1 2+3 1+6 1+3 1+3 1 1+9 1+10 5+2 1+4 1+10 34+1"]⟩,
  ⟨["nchar", "noncharactercodepoint"],
    ["FDD0+1F 20E+1 FFFE+1 FFFE+1 FFFE+1 FFFE+1 FFFE+1 FFFE+1 FFFE+1 FFFE+1 FFFE+1 FFFE+1 FFFE+1",
     "FFFE+1 FFFE+1 FFFE+1 FFFE+1 FFFE+1"]⟩,
  ⟨["patsyn", "patternsyntax"],
    ["21+E A+6 1A+3 1 1A+3 22+6 1 1+1 1 1+1 4 4 3 17 1F 1F18+17 8+E 2+12 1+9 131+2CF A0+275 1E+46B",
     "200+7F 181+2 4+18 F CD0D+1 105+1"]⟩,
  ⟨["patws", "patternwhitespace"],
    ["9+4 12 64 1F88+1 18+1"]⟩,
  ⟨["pcm", "prependedconcatenationmark"],
    ["600+5 D7 31 180+1 50 107DA F"]⟩,
  ⟨["qmark", "quotationmark"],
    ["22 4 83 F 1F5C+7 19+1 E07 1C9+3 D+2 CE21+3 BD 4 5A+1"]⟩,
  ⟨["radical"],
    ["2E80+19 1+58 C+D5"]⟩,
  ⟨["ri", "regionalindicator"],
    ["1F1E6+19"]⟩,
  ⟨["sterm", "sentenceterminal"],
    ["21 C 10 549 93+2 B4 2B+2 F6 3D 1 3+1 125+1 6E4+1 316 4+1 305 C6+1 CC 5 13A+1 162+3 AE+1 2+1",
     "1D+1 BC+1 41+1 3BC+1 9+2 DE4 D 16+1 1AD 74FC 10E+1 E3 3 17E+1 56+1 5F 98+1 93+2 90+1 F9 5266",
     "3+1 A9 C 10 41 AF4+1 4FD+4 2C+3 BD+1 75+3 7F+2 81+1 6 10+1 58+1 1+1 6C 1A1+1 175+1 5+E 69+1",
     "F9+2 205 1 FB+1 57+1 1A4+1 2B4+1 4A+1 4B29+1 85 41+1 B 353 4E06 1DE8"]⟩,
  ⟨["sd", "softdotted"],
    ["69+1 C4 119 1E 34 14 140 62 1 1909 33 D 3 84 9D 1A5 D6+1 B32 1A7A5+1 32+1 32+1 32+1 32+1",
     "32+1 32+1 32+1 32+1 32+1 32+1 32+1 32+1 886 131+1 1A"]⟩,
  ⟨["term", "terminalpunctuation"],
    ["21 A 1 B+1 3 33E 8 201 39 48 E 1+2 B4 2B+A 1 EB+1 36+E 1F 105+1 4F4+1 AC 4+5 137+1 315+7 305",
     "7C+2 47+1 9D+2 3 27+3 2+1 13A+1 162+3 AE+1 1+2 1D+1 BC+4 3E+1 3BC+1 9+2 DE4 D 4 A 1+1 3+1",
     "1AC+1 74FB+1 10D+2 E3+4 17E+1 56+1 5F 97+2 93+2 7F 10+1 F9 5264+2 1+3 A9 A 1 B+1 3 41 2 43A",
     "30 486 C7 136+1 98+5 44+5 59+3 3B8+4 2C+3 BD+6 70+3 7F+2 81+1 6 10+1 58+4 6C 1A1+2 C+1 166+3",
     "3+E 69+1 F9+2 205 1 FB+1 57+1 4+1 19E+2 2D 285+1 4A+1 52B+4 45F9+1 85 41+2 A 352+1 4E06",
     "1DE7+3"]⟩,
  ⟨["uideo", "unifiedideograph"],
    ["3400+19BF 40+51FF 5A0E+1 1 1+1 A 1 1+1 2+2 105D6+A6DF 20+1039 6+DD 2+1681 E+1D30 141F+134A",
     "5+105F"]⟩,
  ⟨["upper", "uppercase"],
    ["41+19 65+16 1+6 21 1 1 1 1 1 1 1 1 1 1 1 1 1 1 1 1 1 1 1 1 1 1 1 1 1 1 1 2 1 1 1 1 1 1 1 2 1",
     "1 1 1 1 1 1 1 1 1 1 1 1 1 1 1 1 1 1 1 1 1 1+1 1 1 3+1 1 1+1 1+2 2+3 1+1 1+2 3+1 1+1 1 1 1+1",
     "1 2 1+1 1+2 1 1+1 3 7 2 2 2 1 1 1 1 1 1 1 2 1 1 1 1 1 1 1 1 2 2 1+2 1 1 1 1 1 1 1 1 1 1 1 1",
     "1 1 1 1 1 1 1 1 1 1 1 1 1 1 1 1 1 7+1 1+1 2 1+3 1 1 1 1 121 1 3 8 6 1+2 1 1+1 1+10 1+8 23",
     "2+2 3 1 1 1 1 1 1 1 1 1 1 1 5 2 1+1 2+32 30 1 1 1 1 1 1 1 1 1 1 1 1 1 1 1 1 9 1 1 1 1 1 1 1",
     "1 1 1 1 1 1 1 1 1 1 1 1 1 1 1 1 1 1 1 1+1 1 1 1 1 1 1 2 1 1 1 1 1 1 1 1 1 1 1 1 1 1 1 1 1 1",
     "1 1 1 1 1 1 1 1 1 1 1 1 1 1 1 1 1 1 1 1 1 1 1 1 1 1 1 1 1 2+25 B49+25 1 5 2D2+55 89A+2A 2+2",
     "140 1 1 1 1 1 1 1 1 1 1 1 1 1 1 1 1 1 1 1 1 1 1 1 1 1 1 1 1 1 1 1 1 1 1 1 1 1 1 1 1 1 1 1 1",
     "1 1 1 1 1 1 1 1 1 1 1 1 1 1 1 1 1 1 1 1 1 1 1 1 1 1 1 1 1 1 9 1 1 1 1 1 1 1 1 1 1 1 1 1 1 1",
     "1 1 1 1 1 1 1 1 1 1 1 1 1 1 1 1 1 1 1 1 1 1 1 1 1 1 1 1 1 1 1 1 1 9+7 8+5 A+7 8+7 8+5 B 1 1",
     "1 8+7 48+3 C+3 C+3 C+4 B+3 106 4 3+2 2+2 2 3+4 6 1 1 1+3 2+3 A+1 5 1A+F 13 332+19 730+2F 30",
     "1+2 2 1 1 1+3 1 2 8+2 1 1 1 1 1 1 1 1 1 1 1 1 1 1 1 1 1 1 1 1 1 1 1 1 1 1 1 1 1 1 1 1 1 1 1",
     "1 1 1 1 1 1 1 1 1 1 1 1 1 1 8 1 4 794D 1 1 1 1 1 1 1 1 1 1 1 1 1 1 1 1 1 1 1 1 1 1 13 1 1 1",
     "1 1 1 1 1 1 1 1 1 1 87 1 1 1 1 1 1 3 1 1 1 1 1 1 1 1 1 1 1 1 1 1 1 1 1 1 1 1 1 1 1 1 1 1 1 1",
     "1 1 A 1 1+1 1 1 1 1 4 1 2 1 3 1 1 1 1 1 1 1 1 1 1+4 1+4 1 1 1 1 1 1 1 1+3 1 6 5 1 1C 572B+19",
     "4C5+27 88+23 9C+A 1+E 1+6 1+1 6EA+32 BED+1F 5580+1F 65A0+19 1A+19 1A+19 1A 1+1 2 2+1 2+3 1+7",
     "1A+19 1A+1 1+3 2+7 1+6 1B+1 1+3 1+4 1 3+6 1B+19 1A+19 1A+19 1A+19 1A+19 1A+19 1E+18 21+18",
     "21+18 21+18 21+18 21 1135+21 80E+19 6+19 6+19"]⟩,
  ⟨["vs", "variationselector"],
    ["180B+2 1 E5F0+F D02F0+EF"]⟩,
  ⟨["wspace", "whitespace", "space"],
    ["9+4 12 64 1A 15DF 97F+A 1D+1 5 2F FA0"]⟩,
  ⟨["xidc", "xidcontinue"],
    ["30+9 7+19 4 1+19 2F A 1 2 5+16 1+1E 1+1C9 4+B E+4 7 1 11+74 1+1 3+2 1 6+4 1 1+13 1+52 1+8A",
     "1+4 2+A5 1+25 2 6+28 8+2C 1 1+1 1+1 1 8+1A 4+3 1D+A 5+49 4+65 1+7 2+9 1+12 2 10+3A 2+64 E+35",
     "4 2 2+2D 12+1B 4+A 5+17 1+5 9+49 1+80 2+9 1+12 1+7 2+1 2+15 1+6 1 3+3 2+8 2+1 2+3 8 4+1 1+4",
     "2+B A 1 2+2 1+5 4+1 2+15 1+6 1+1 1+1 1+1 2 1+4 4+1 2+2 3 7+3 1 7+F B+2 1+8 1+2 1+15 1+6 1+1",
     "1+4 2+9 1+2 1+2 2 F+3 2+9 9+6 1+2 1+7 2+1 2+15 1+6 1+1 1+4 2+8 2+1 2+2 7+2 4+1 1+4 2+9 1",
     "10+1 1+5 3+2 1+3 3+1 1 1+1 3+1 3+2 3+B 4+4 3+2 1+3 2 6 E+9 10+C 1+2 1+16 1+F 2+8 1+2 1+3 7+1",
     "1+2 2 2+3 2+9 10+3 1+7 1+2 1+16 1+9 1+4 2+8 1+2 1+3 7+1 6+1 1+3 2+9 1+2 C+C 1+2 1+32 1+2 1+4",
     "5+3 7+4 2+9 A+5 1+2 1+11 3+17 1+8 1 2+6 3 4+5 1 1+7 6+9 2+1 D+39 5+E 1+9 27+1 1 1+4 1+17 1",
     "1+16 2+4 1 1+6 1+9 2+3 20 17+1 6+9 B 1 1 4+9 1+23 4+13 1+11 1+23 9 39+49 6+4D 2+25 1 5 2+2A",
     "1+14C 1+3 2+6 1 1+3 2+28 1+3 2+20 1+3 2+6 1 1+3 2+E 1+38 1+3 2+42 2+2 9+8 E+F 10+55 2+5",
     "3+26B 2+10 1+19 5+4A 3+A 7+15 9+15 B+13 C+C 1+2 1+1 C+53 3 4+1 2+9 21+2 1+A 6+58 7+2A 5+45",
     "A+1E 1+B 4+B A+27 2+4 B+2B 4+19 6+A 25+1B 4+3E 1+1C 2+A 6+9 D 8+D 1+F 31+4C 3+9 11+8 C+73",
     "C+37 8+9 3+30 2+8 7+2A 2+2 10+2 1+26 5+215 2+5 2+25 2+5 2+7 1 1 1 1+1E 2+34 1+6 1 3+2 1+6",
     "3+3 2+5 4+C 5+2 1+6 42+1 13 1C D 10+C 33+C 4 3+B 11 4 2+9 1 2+5 6 1 1 1+F 2+3 5+4 4 11+28",
     "A77+E4 6+8 C+25 1 5 2+37 7 F+17 9+6 1+6 1+6 1+6 1+6 1+6 1+6 1+6 1+1F 205+2 19+E 1+4 2+4 4+55",
     "2+1 2+2 1+59 1+3 5+2A 1+5D 11+1F 30+F 200+19BF 40+568C 43+2D 2+10C 3+1B 14+2F 4+9 1+72 25+8",
     "2+66 2+3F 5+1 1 1+4 18+35 4 13+33 C+45 A+9 6+17 3 1+30 2+23 C+1C 3+40 E+A 6+1E 1+36 9+D 2+9",
     "6+16 3+48 18+2 2+F 2+4 A+5 2+5 2+5 9+6 1+6 1+2A 1+D 6+7A 1+1 2+9 6+2BA3 C+16 4+30 2104+16D",
     "2+69 26+6 C+4 5+B 1+C 1+4 1 1+1 1+1 1+6B 21+8A 6+D9 12+3F 2+35 28+9 6+F 10+F 3+1 18+2 21 1 3",
     "1 1 1 1+7D 13+9 7+19 4 1+19 B+58 3+5 2+5 2+5 2+2 23+B 1+19 1+12 1+1 1+E 2+D 22+7A 45+34 88",
     "82+1C 3+30 F 1F+1F D+1D 5+2A 5+1D 2+23 4+7 1+4 2A+9D 2+9 6+23 4+23 4+27 8+33 C+A 1+E 1+6 1+1",
     "1+A 1+E 1+6 1+1 43+136 9+15 A+7 18+5 1+29 1+8 45+5 2 1+2B 1+1 3 2+16 A+16 9+1E 41+12 1+1",
     "A+15 A+19 46+37 6+1 40+3 1+1 5+7 1+2 1+1C 2+2 4 20+1C 3+1C 23+7 1+1D 19+35 A+15 A+12 D+11",
     "6E+48 37+32 D+32 D+27 8+9 146+29 1+1 3+1 4B+1F A 8+20 1F+15 2A+14 1B+16 9+46 1F+F 9+3B 7",
     "D+18 7+9 6+34 1+9 4+3 8+23 2 9+44 4+3 1+C 1 23+11 1+24 6+3 3E+6 1 1+3 1+E 1+9 7+3A 5+9 6+3",
     "1+7 2+1 2+15 1+6 1+1 1+4 1+9 2+1 2+2 2 6 5+6 2+6 3+4 8B+4A 5+9 4+3 1E+45 1 8+9 A6+35 2+8",
     "17+5 22+40 3 B+9 26+38 7+9 36+1A 2+E 4+9 6+6 B9+3A 65+49 15+7 2 2+7 1+1 1+1D 1+1 2+8 C+9",
     "46+7 2+2D 2+7 1+1 1B+3E 8 8+49 3 12+48 107+8 1+2C 1+8 F+9 18+1D 2+15 1+D 49+6 1+1 1+2B 3 1+1",
     "1+8 8+9 6+5 1+1 1+24 1+1 1+5 7+9 136+16 9+10 1+28 3+4 D+9 56 4F+399 66+6E 11+C3 A4C+60 F+42F",
     "10+15 FAA+246 21B9+238 7+1E 1+9 6+4E 1+9 6+1D 2+4 B+36 9+3 C+9 9+14 5+12 2B0+3F 80+4A 4+38",
     "7+10 40+1 1+1 B+1 E+17F7 8+4D5 2A+8 22E7+3 1+6 1+1 1+122 F 1D+2 2 E+3 8+18B 904+6A 5+C 3+8",
     "7+9 3+1 1261+2D 2+16 21E+4 3+5 8+7 2+6 1E+3 94+2 1BB+54 1+46 1+1 2 2+1 2+3 1+B 1 1+6 1+40",
     "1+3 2+7 1+6 1+1B 1+3 1+4 1 3+6 1+153 2+18 1+18 1+1E 1+18 1+1E 1+18 1+1E 1+18 1+1E 1+18 1+7",
     "2+31 200+36 4+31 8 E 16+4 1+E 450+1E 6+5 D5+6 1+10 2+6 1+1 1+4 5+3D 21 70+2C 3+D 2+9 4",
     "141+1E 11+39 1D6+29 2E6+6 1+3 1+1 1+E 1+C4 B+6 29+4B 4+9 4A6+3 1+1A 1+1 1 2 1+9 1+3 1 1 6 4",
     "1 1 1+2 1+1 1 2 1 1 1 1 1+1 1 2+3 1+6 1+3 1+3 1 1+9 1+10 5+2 1+4 1+10 D34+9 406+A6DF 20+1039",
     "6+DD 2+1681 E+1D30 C1F+21D 5E2+134A 5+105F ADD50+EF"]⟩,
  ⟨["xids", "xidstart"],
    ["41+19 6+19 2F A 4 5+16 1+1E 1+1C9 4+B E+4 7 1 81+4 1+1 3+2 1 6 1+2 1 1+13 1+52 1+8A 8+A5",
     "1+25 2 6+28 47+1A 4+3 2D+2A 23+1 1+62 1 F+1 7+1 A+2 2 10 1+1D 1D+58 B 18+20 9+1 4 5+15 4 9 3",
     "17+18 7+A 5+17 1+5 11+29 3A+35 3 12 7+9 F+F 4+7 2+1 2+15 1+6 1 3+3 3 10 D+1 1+2 E+1 A 8+5",
     "4+1 2+15 1+6 1+1 1+1 1+1 1F+3 1 13+2 10+8 1+2 1+15 1+6 1+1 1+4 3 12 F+1 17 B+7 2+1 2+15 1+6",
     "1+1 1+4 3 1E+1 1+2 F 11 1+5 3+2 1+3 3+1 1 1+1 3+1 3+2 3+B 16 34+7 1+2 1+16 1+F 3 1A+2 2 2+1",
     "1E 4+7 1+2 1+16 1+9 1+4 3 1F+1 1+1 F+1 11+8 1+2 1+28 2 10 5+2 8+2 18+5 5+11 3+17 1+8 1 2+6",
     "3A+2F 1 D+6 3A+1 1 1+4 1+17 1 1+9 1 A 2+4 1 15+3 20 3F+7 1+23 1B+4 73+2A 14 10+5 4+3 3 3+1",
     "7+2 4+C C 11+25 1 5 2+2A 1+14C 1+3 2+6 1 1+3 2+28 1+3 2+20 1+3 2+6 1 1+3 2+E 1+38 1+3 2+42",
     "25+F 10+55 2+5 3+26B 2+10 1+19 5+4A 3+A 7+11 D+12 E+11 E+C 1+2 F+33 23 4 43+58 7+28 1 5+45",
     "A+1E 31+1D 2+4 B+2B 4+19 36+16 9+34 52 5D+2E 11+7 36+1D D+1 A+2B 1A+23 29+2 A+23 2+8 7+2A",
     "2+2 29+3 1+5 1+1 3 5+BF 40+115 2+5 2+25 2+5 2+7 1 1 1 1+1E 2+34 1+6 1 3+2 1+6 3+3 2+5 4+C",
     "5+2 1+6 74 D 10+C 65 4 2+9 1 2+5 6 1 1 1+F 2+3 5+4 4 11+28 A77+E4 6+3 3+1 C+25 1 5 2+37 7",
     "10+16 9+6 1+6 1+6 1+6 1+6 1+6 1+6 1+6 226+2 19+8 7+4 2+4 4+55 6+2 1+59 1+3 5+2A 1+5D 11+1F",
     "30+F 200+19BF 40+568C 43+2D 2+10C 3+F A+1 14+2E 10+1E 2+4F 27+8 2+66 2+3F 5+1 1 1+4 18+F 1+2",
     "1+3 1+16 1D+33 E+31 3E+5 3 1+1 B+1B A+16 19+1C 7+2E 1C 10+4 1+9 A+4 1+28 17+2 1+7 14+16 3",
     "3+31 1 3+1 2+4 2 1 18+2 2+A 7+2 C+5 2+5 2+5 9+6 1+6 1+2A 1+D 6+72 1D+2BA3 C+16 4+30 2104+16D",
     "2+69 26+6 C+4 5 1+9 1+C 1+4 1 1+1 1+1 1+6B 21+8A 6+D9 12+3F 2+35 28+9 77 1 3 1 1 1 1+7D",
     "24+19 6+19 B+37 2+1E 3+5 2+5 2+5 2+2 23+B 1+19 1+12 1+1 1+E 2+D 22+7A 45+34 10B+1C 3+30",
     "2F+1F D+1D 5+25 A+1D 2+23 4+7 1+4 2A+9D 12+23 4+23 4+27 8+33 C+A 1+E 1+6 1+1 1+A 1+E 1+6 1+1",
     "43+136 9+15 A+7 18+5 1+29 1+8 45+5 2 1+2B 1+1 3 2+16 A+16 9+1E 41+12 1+1 A+15 A+19 46+37 6+1",
     "40 F+3 1+2 1+1C 2A+1C 3+1C 23+7 1+1B 1B+35 A+15 A+12 D+11 6E+48 37+32 D+32 D+23 15C+29 6+1",
     "4E+1C A 8+15 2A+11 2E+14 1B+16 C+34 39+1 2 D+2C 20+18 1A+23 1D 2 8+22 3 C+2F E+3 15 1 23+11",
     "1+18 13+1 3F+6 1 1+3 1+E 1+9 7+2E 26+7 2+1 2+15 1+6 1+1 1+4 3 12 C+4 9E+34 12+3 14+2 1E+2F",
     "14+1 1 B8+2E 29+3 24+2F 14 3B+2A D 47+1A 25+6 B9+2B 74+3F 1F+7 2 2+7 1+1 1+17 F 1 5E+7 2+26",
     "10 1 1C A+27 7 15 B+2D 13 12+48 107+8 1+24 11 31+1D 70+6 1+1 1+25 15 19+5 1+1 1+1F E 147+12",
     "F 1+C 1+21 7C 4F+399 66+6E 11+C3 A4C+60 F+42F 11+5 FB9+246 21B9+238 7+1E 11+4E 11+1D 12+2F",
     "10+3 1F+14 5+12 2B0+3F 80+4A 5 42+C 40+1 1 1C+17F7 8+4D5 2A+8 22E7+3 1+6 1+1 1+122 F 1D+2 2",
     "E+3 8+18B 904+6A 5+C 3+8 7+9 1766+54 1+46 1+1 2 2+1 2+3 1+B 1 1+6 1+40 1+3 2+7 1+6 1+1B 1+3",
     "1+4 1 3+6 1+153 2+18 1+18 1+1E 1+18 1+1E 1+18 1+1E 1+18 1+1E 1+18 1+7 734+1E 6+5 105+3D",
     "92+2C A+6 10 141+1D 12+2B 1E4+1B 2F4+6 1+3 1+1 1+E 1+C4 3B+43 7 4B4+3 1+1A 1+1 1 2 1+9 1+3 1",
     "1 6 4 1 1 1+2 1+1 1 2 1 1 1 1 1+1 1 2+3 1+6 1+3 1+3 1 1+9 1+10 5+2 1+4 1+10 1144+A6DF",
     "20+1039 6+DD 2+1681 E+1D30 C1F+21D 5E2+134A 5+105F"]⟩]

def trait? (name : String) : Option CharSet :=
  membersOf? traits name

/-- The characters with a trait that is tabulated above. -/
def traitMembers (name : String) : CharSet :=
  (trait? name).getD .empty

/-- Letters in a wide sense, marks that behave like letters included. -/
def alphabetic : CharSet :=
  traitMembers "alphabetic"

/-- White space; the same characters as `Text.isBlank`. -/
def whiteSpace : CharSet :=
  traitMembers "whitespace"

/-- What words are made of: letters, marks, decimal digits, connectors and joiners. -/
def wordChars : CharSet :=
  .ofRanges (alphabetic.ranges ++ (categoryUnion ["mn", "mc", "me", "nd", "pc"]).ranges ++
    (traitMembers "joincontrol").ranges)

/-- Characters that attach to the one before. -/
def graphemeExtend : CharSet :=
  traitMembers "graphemeextend"

/-- Characters without a visible form of their own: controls, formats, private and unassigned
ones, and separators other than the space. -/
def unprintable : CharSet :=
  (categoryUnion ["cc", "cf", "co", "cn", "zs", "zl", "zp"]).diff (.singleton ' ')

end ImageGate.Unicode
