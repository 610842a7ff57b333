import ActionTree.Unicode.CharSet

/-!
# ActionTree.Unicode.Casing

Which letters are one letter in two cases, and which letters change with their case.

1. case folding sends a letter to the form that stands for all its cases; it is
   given as distances, each with the letters it applies to;
2. two letters are one letter if folding sends them to the same;
3. a *folded* set has a letter if it has the letter in any case.
-/

namespace ActionTree

namespace Unicode

/-! ## Folding -/

/-- How far letters are moved by folding. -/
def foldingShifts : List (Int × CharSet) :=
  [(32, .ofTable
    ["41-5A C0-D6 D8-DE 391-3A1 3A3-3AB 410-42F FF21-FF3A 10D50-10D65 118A0-118BF 16E40-16E5F"]),
   (775, .ofText "B5"), (7615, .ofText "DF"),
   (1, .ofTable
    ["100-12E/2 132-136/2 139-147/2 14A-176/2 179-17D/2 182 184 187 18B 191 198 1A0-1A4/2 1A7",
     "1AC 1AF 1B3 1B5 1B8 1BC 1C5-1CB/3 1CD-1DB/2 1DE-1EE/2 1F2 1F4 1F8-21E/2 222-232/2 23B",
     "241 246-24E/2 370 372 376 3C2 3D8-3EE/2 3F7 3FA 460-480/2 48A-4BE/2 4C1-4CD/2 4D0-52E/2",
     "1C89 1E00-1E94/2 1EA0-1EFE/2 2183 2C60 2C67-2C6B/2 2C72 2C75 2C80-2CE2/2 2CEB 2CED 2CF2",
     "A640-A66C/2 A680-A69A/2 A722-A72E/2 A732-A76E/2 A779 A77B A77E-A786/2 A78B A790 A792",
     "A796-A7A8/2 A7B4-A7C2/2 A7C7 A7C9 A7CC A7D0 A7D6-A7DA/2 A7F5 FB05"]),
   (-121, .ofText "178"), (-268, .ofText "17F"), (210, .ofText "181"), (206, .ofText "186"),
   (205, .ofText "189-18A 193"), (79, .ofText "18E"), (202, .ofText "18F"), (203, .ofText "190"),
   (207, .ofText "194"), (211, .ofText "196 19C"), (209, .ofText "197"), (213, .ofText "19D"),
   (214, .ofText "19F"), (218, .ofText "1A6 1A9 1AE"), (217, .ofText "1B1-1B2"),
   (219, .ofText "1B7"), (2, .ofText "1C4-1CA/3 1F1"), (-97, .ofText "1F6"),
   (-56, .ofText "1F7"), (-130, .ofText "220 3FD-3FF"), (10795, .ofText "23A"),
   (-163, .ofText "23D"), (10792, .ofText "23E"), (-195, .ofText "243"), (69, .ofText "244"),
   (71, .ofText "245"), (116, .ofText "345 37F"), (38, .ofText "386"), (37, .ofText "388-38A"),
   (64, .ofText "38C 10C80-10CB2"), (63, .ofText "38E-38F"),
   (8, .ofText "3CF 13F0-13F5 1F80-1F87 1F90-1F97 1FA0-1FA7"), (-30, .ofText "3D0"),
   (-25, .ofText "3D1"), (-15, .ofText "3D5"), (-22, .ofText "3D6"), (-54, .ofText "3F0"),
   (-48, .ofText "3F1 A7C4"), (-60, .ofText "3F4"), (-64, .ofText "3F5"),
   (-7, .ofText "3F9 1FEC"), (80, .ofText "400-40F"), (15, .ofText "4C0"),
   (48, .ofText "531-556 2C00-2C2F"), (7264, .ofText "10A0-10C5 10C7 10CD"),
   (38864, .ofText "13A0-13EF"), (-6222, .ofText "1C80"), (-6221, .ofText "1C81"),
   (-6212, .ofText "1C82"), (-6210, .ofText "1C83-1C84"), (-6211, .ofText "1C85"),
   (-6204, .ofText "1C86"), (-6180, .ofText "1C87"), (35267, .ofText "1C88"),
   (-3008, .ofText "1C90-1CBA 1CBD-1CBF"), (-58, .ofText "1E9B"),
   (-8, .ofTable
    ["1F08-1F0F 1F18-1F1D 1F28-1F2F 1F38-1F3F 1F48-1F4D 1F59-1F5F/2 1F68-1F6F 1FB8-1FB9",
     "1FD8-1FD9 1FE8-1FE9"]),
   (9, .ofText "1FB3 1FC3 1FF3"), (-74, .ofText "1FBA-1FBB"), (-7173, .ofText "1FBE"),
   (-86, .ofText "1FC8-1FCB"), (-7235, .ofText "1FD3"), (-100, .ofText "1FDA-1FDB"),
   (-7219, .ofText "1FE3"), (-112, .ofText "1FEA-1FEB"), (-128, .ofText "1FF8-1FF9"),
   (-126, .ofText "1FFA-1FFB"), (-7517, .ofText "2126"), (-8383, .ofText "212A"),
   (-8262, .ofText "212B"), (28, .ofText "2132"), (16, .ofText "2160-216F"),
   (26, .ofText "24B6-24CF"), (-10743, .ofText "2C62"), (-3814, .ofText "2C63"),
   (-10727, .ofText "2C64"), (-10780, .ofText "2C6D"), (-10749, .ofText "2C6E"),
   (-10783, .ofText "2C6F"), (-10782, .ofText "2C70"), (-10815, .ofText "2C7E-2C7F"),
   (-35332, .ofText "A77D"), (-42280, .ofText "A78D"), (-42308, .ofText "A7AA A7AE"),
   (-42319, .ofText "A7AB"), (-42315, .ofText "A7AC"), (-42305, .ofText "A7AD"),
   (-42258, .ofText "A7B0"), (-42282, .ofText "A7B1"), (-42261, .ofText "A7B2"),
   (928, .ofText "A7B3"), (-42307, .ofText "A7C5"), (-35384, .ofText "A7C6"),
   (-42343, .ofText "A7CB"), (-42561, .ofText "A7DC"), (40, .ofText "10400-10427 104B0-104D3"),
   (39, .ofText "10570-1057A 1057C-1058A 1058C-10592 10594-10595"), (34, .ofText "1E900-1E921")]

/-- The letters that folding moves, each with the letter it is moved to. -/
def foldings : List (Nat × Nat) :=
  foldingShifts.flatMap fun (shift, letters) =>
    letters.ranges.flatMap fun (lo, hi) =>
      (List.range (hi - lo + 1)).map fun k => (lo + k, (Int.ofNat (lo + k) + shift).toNat)

/-- The letters that folding moves if it keeps to ASCII. -/
def asciiFoldings : List (Nat × Nat) :=
  (List.range 26).map fun k => ('A'.toNat + k, 'a'.toNat + k)

/-! ## Letters that change -/

/-- What folding changes. -/
def changesWhenCasefolded : CharSet := .ofTable
  ["41-5A B5 C0-D6 D8-DF 100-136/2 139-147/2 149-14A 14C-176/2 178-179 17B-17F/2 181-182 184",
   "186-187 189-18B 18E-191 193-194 196-198 19C-19D 19F-1A0 1A2 1A4 1A6-1A7 1A9 1AC 1AE-1AF",
   "1B1-1B3 1B5 1B7-1B8 1BC 1C4-1C5 1C7-1C8 1CA-1CB 1CD-1DB/2 1DE-1EE/2 1F1-1F2 1F4 1F6-1F8",
   "1FA-232/2 23A-23B 23D-23E 241 243-246 248-24E/2 345 370 372 376 37F 386 388-38A 38C",
   "38E-38F 391-3A1 3A3-3AB 3C2 3CF-3D1 3D5-3D6 3D8-3EE/2 3F0-3F1 3F4-3F5 3F7 3F9-3FA 3FD-42F",
   "460-480/2 48A-4BE/2 4C0-4C1 4C3-4CD/2 4D0-52E/2 531-556 587 10A0-10C5 10C7 10CD 13F8-13FD",
   "1C80-1C89 1C90-1CBA 1CBD-1CBF 1E00-1E94/2 1E9A-1E9B 1E9E-1EFE/2 1F08-1F0F 1F18-1F1D",
   "1F28-1F2F 1F38-1F3F 1F48-1F4D 1F59-1F5F/2 1F68-1F6F 1F80-1FAF 1FB2-1FB4 1FB7-1FBC",
   "1FC2-1FC4 1FC7-1FCC 1FD8-1FDB 1FE8-1FEC 1FF2-1FF4 1FF7-1FFC 2126 212A-212B 2132 2160-216F",
   "2183 24B6-24CF 2C00-2C2F 2C60 2C62-2C64 2C67-2C6B/2 2C6D-2C70 2C72 2C75 2C7E-2C80",
   "2C82-2CE2/2 2CEB 2CED 2CF2 A640-A66C/2 A680-A69A/2 A722-A72E/2 A732-A76E/2 A779 A77B",
   "A77D-A77E A780-A786/2 A78B A78D A790 A792 A796-A7A8/2 A7AA-A7AE A7B0-A7B4 A7B6-A7C2/2",
   "A7C4-A7C7 A7C9 A7CB-A7CC A7D0 A7D6-A7DC/2 A7F5 AB70-ABBF FB00-FB06 FB13-FB17 FF21-FF3A",
   "10400-10427 104B0-104D3 10570-1057A 1057C-1058A 1058C-10592 10594-10595 10C80-10CB2",
   "10D50-10D65 118A0-118BF 16E40-16E5F 1E900-1E921"]

/-- What is changed by writing it small. -/
def changesWhenLowercased : CharSet := .ofTable
  ["41-5A C0-D6 D8-DE 100-136/2 139-147/2 14A-176/2 178-179 17B 17D 181-182 184 186-187 189-18B",
   "18E-191 193-194 196-198 19C-19D 19F-1A0 1A2 1A4 1A6-1A7 1A9 1AC 1AE-1AF 1B1-1B3 1B5",
   "1B7-1B8 1BC 1C4-1C5 1C7-1C8 1CA-1CB 1CD-1DB/2 1DE-1EE/2 1F1-1F2 1F4 1F6-1F8 1FA-232/2",
   "23A-23B 23D-23E 241 243-246 248-24E/2 370 372 376 37F 386 388-38A 38C 38E-38F 391-3A1",
   "3A3-3AB 3CF 3D8-3EE/2 3F4 3F7 3F9-3FA 3FD-42F 460-480/2 48A-4BE/2 4C0-4C1 4C3-4CD/2",
   "4D0-52E/2 531-556 10A0-10C5 10C7 10CD 13A0-13F5 1C89 1C90-1CBA 1CBD-1CBF 1E00-1E94/2",
   "1E9E-1EFE/2 1F08-1F0F 1F18-1F1D 1F28-1F2F 1F38-1F3F 1F48-1F4D 1F59-1F5F/2 1F68-1F6F",
   "1F88-1F8F 1F98-1F9F 1FA8-1FAF 1FB8-1FBC 1FC8-1FCC 1FD8-1FDB 1FE8-1FEC 1FF8-1FFC 2126",
   "212A-212B 2132 2160-216F 2183 24B6-24CF 2C00-2C2F 2C60 2C62-2C64 2C67-2C6B/2 2C6D-2C70",
   "2C72 2C75 2C7E-2C80 2C82-2CE2/2 2CEB 2CED 2CF2 A640-A66C/2 A680-A69A/2 A722-A72E/2",
   "A732-A76E/2 A779 A77B A77D-A77E A780-A786/2 A78B A78D A790 A792 A796-A7A8/2 A7AA-A7AE",
   "A7B0-A7B4 A7B6-A7C2/2 A7C4-A7C7 A7C9 A7CB-A7CC A7D0 A7D6-A7DC/2 A7F5 FF21-FF3A 10400-10427",
   "104B0-104D3 10570-1057A 1057C-1058A 1058C-10592 10594-10595 10C80-10CB2 10D50-10D65",
   "118A0-118BF 16E40-16E5F 1E900-1E921"]

/-- What is changed by writing it with a capital in front. -/
def changesWhenTitlecased : CharSet := .ofTable
  ["61-7A B5 DF-F6 F8-FF 101-137/2 13A-146/2 148-149 14B-177/2 17A 17C 17E-180 183 185 188 18C",
   "192 195 199-19B 19E 1A1-1A5/2 1A8 1AD 1B0 1B4 1B6 1B9 1BD 1BF 1C4 1C6-1C7 1C9-1CA",
   "1CC-1DA/2 1DC-1DD 1DF-1ED/2 1EF-1F1 1F3 1F5 1F9-21F/2 223-233/2 23C 23F-240 242 247-24D/2",
   "24F-254 256-257 259 25B-25C 260-261 263-266 268-26C 26F 271-272 275 27D 280 282-283",
   "287-28C 292 29D-29E 345 371 373 377 37B-37D 390 3AC-3CE 3D0-3D1 3D5-3D7 3D9-3ED/2 3EF-3F3",
   "3F5-3FB/3 430-45F 461-481/2 48B-4BF/2 4C2-4CC/2 4CE-4CF 4D1-52F/2 561-587 13F8-13FD",
   "1C80-1C88 1C8A 1D79 1D7D 1D8E 1E01-1E93/2 1E95-1E9B 1EA1-1EFD/2 1EFF-1F07 1F10-1F15",
   "1F20-1F27 1F30-1F37 1F40-1F45 1F50-1F57 1F60-1F67 1F70-1F7D 1F80-1F87 1F90-1F97 1FA0-1FA7",
   "1FB0-1FB4 1FB6-1FB7 1FBE 1FC2-1FC4 1FC6-1FC7 1FD0-1FD3 1FD6-1FD7 1FE0-1FE7 1FF2-1FF4",
   "1FF6-1FF7 214E 2170-217F 2184 24D0-24E9 2C30-2C5F 2C61 2C65-2C66 2C68-2C6C/2 2C73 2C76",
   "2C81-2CE3/2 2CEC 2CEE 2CF3 2D00-2D25 2D27 2D2D A641-A66D/2 A681-A69B/2 A723-A72F/2",
   "A733-A76F/2 A77A A77C A77F-A787/2 A78C A791 A793-A794 A797-A7A9/2 A7B5-A7C3/2 A7C8 A7CA",
   "A7CD A7D1 A7D7-A7DB/2 A7F6 AB53 AB70-ABBF FB00-FB06 FB13-FB17 FF41-FF5A 10428-1044F",
   "104D8-104FB 10597-105A1 105A3-105B1 105B3-105B9 105BB-105BC 10CC0-10CF2 10D70-10D85",
   "118C0-118DF 16E60-16E7F 1E922-1E943"]

/-- What is changed by writing it in capitals. -/
def changesWhenUppercased : CharSet := .ofTable
  ["61-7A B5 DF-F6 F8-FF 101-137/2 13A-146/2 148-149 14B-177/2 17A 17C 17E-180 183 185 188 18C",
   "192 195 199-19B 19E 1A1-1A5/2 1A8 1AD 1B0 1B4 1B6 1B9 1BD 1BF 1C5-1C6 1C8-1C9 1CB-1CC",
   "1CE-1DA/2 1DC-1DD 1DF-1ED/2 1EF-1F0 1F2-1F3 1F5 1F9-21F/2 223-233/2 23C 23F-240 242",
   "247-24D/2 24F-254 256-257 259 25B-25C 260-261 263-266 268-26C 26F 271-272 275 27D 280",
   "282-283 287-28C 292 29D-29E 345 371 373 377 37B-37D 390 3AC-3CE 3D0-3D1 3D5-3D7 3D9-3ED/2",
   "3EF-3F3 3F5-3FB/3 430-45F 461-481/2 48B-4BF/2 4C2-4CC/2 4CE-4CF 4D1-52F/2 561-587",
   "10D0-10FA 10FD-10FF 13F8-13FD 1C80-1C88 1C8A 1D79 1D7D 1D8E 1E01-1E93/2 1E95-1E9B",
   "1EA1-1EFD/2 1EFF-1F07 1F10-1F15 1F20-1F27 1F30-1F37 1F40-1F45 1F50-1F57 1F60-1F67",
   "1F70-1F7D 1F80-1FB4 1FB6-1FB7 1FBC 1FBE 1FC2-1FC4 1FC6-1FC7 1FCC 1FD0-1FD3 1FD6-1FD7",
   "1FE0-1FE7 1FF2-1FF4 1FF6-1FF7 1FFC 214E 2170-217F 2184 24D0-24E9 2C30-2C5F 2C61 2C65-2C66",
   "2C68-2C6C/2 2C73 2C76 2C81-2CE3/2 2CEC 2CEE 2CF3 2D00-2D25 2D27 2D2D A641-A66D/2",
   "A681-A69B/2 A723-A72F/2 A733-A76F/2 A77A A77C A77F-A787/2 A78C A791 A793-A794 A797-A7A9/2",
   "A7B5-A7C3/2 A7C8 A7CA A7CD A7D1 A7D7-A7DB/2 A7F6 AB53 AB70-ABBF FB00-FB06 FB13-FB17",
   "FF41-FF5A 10428-1044F 104D8-104FB 10597-105A1 105A3-105B1 105B3-105B9 105BB-105BC",
   "10CC0-10CF2 10D70-10D85 118C0-118DF 16E60-16E7F 1E922-1E943"]

/-- What is changed by one of the three ways of writing. -/
def changesWhenCasemapped : CharSet := .unions
  [changesWhenLowercased, changesWhenTitlecased, changesWhenUppercased]

end Unicode

/-- A set with the letters that are one letter with one of its own. -/
def CharSet.foldedBy (foldings : List (Nat × Nat)) (s : CharSet) : CharSet :=
  let down := s.union (.ofRanges
    ((foldings.filter fun p => s.has p.1).map fun p => (p.2, p.2)))
  down.union (.ofRanges ((foldings.filter fun p => down.has p.2).map fun p => (p.1, p.1)))

end ActionTree
