import GvSwitch.Foundation.Bytes

/-!
# Text

Case folding, and hexadecimal text.  Lower case is that of ASCII text, which is all
that the identifiers of clients have.
-/

namespace GvSwitch.Foundation

def lowerChar (char : Char) : Char :=
  if 'A' ≤ char ∧ char ≤ 'Z' then Char.ofNat (char.toNat + 32) else char

def toLower (text : String) : String := String.ofList (text.toList.map lowerChar)

def hexDigit (value : Nat) : Char := "0123456789abcdef".toList.getD value '0'

def hexByte (byte : UInt8) : List Char :=
  [hexDigit (byte.toNat / 16), hexDigit (byte.toNat % 16)]

def hexString (data : Bytes) : String := String.ofList (data.map hexByte).flatten

def macString (data : Bytes) : String :=
  String.ofList ((data.map hexByte).intersperse [':']).flatten

/-! ## Case folding -/

/-- The simple case folding (Unicode 15.0) of single code points past ASCII. -/
def foldSingles : List (Nat × Nat) :=
  [(181, 956), (376, 255), (383, 115), (385, 595), (390, 596), (398, 477), (399, 601),
  (400, 603), (403, 608), (404, 611), (406, 617), (407, 616), (412, 623), (413, 626),
  (415, 629), (422, 640), (425, 643), (430, 648), (439, 658), (452, 454), (455, 457),
  (458, 460), (497, 499), (502, 405), (503, 447), (544, 414), (570, 11365), (573, 410),
  (574, 11366), (579, 384), (580, 649), (581, 652), (837, 953), (895, 1011), (902, 940),
  (908, 972), (975, 983), (976, 946), (977, 952), (981, 966), (982, 960), (1008, 954),
  (1009, 961), (1012, 952), (1013, 949), (1017, 1010), (1216, 1231), (4295, 11559),
  (4301, 11565), (7296, 1074), (7297, 1076), (7298, 1086), (7301, 1090), (7302, 1098),
  (7303, 1123), (7304, 42571), (7835, 7777), (7838, 223), (8025, 8017), (8027, 8019),
  (8029, 8021), (8031, 8023), (8124, 8115), (8126, 953), (8140, 8131), (8172, 8165),
  (8188, 8179), (8486, 969), (8490, 107), (8491, 229), (8498, 8526), (11362, 619),
  (11363, 7549), (11364, 637), (11373, 593), (11374, 625), (11375, 592), (11376, 594),
  (42877, 7545), (42893, 613), (42922, 614), (42923, 604), (42924, 609), (42925, 620),
  (42926, 618), (42928, 670), (42929, 647), (42930, 669), (42931, 43859), (42948, 42900),
  (42949, 642), (42950, 7566)]

/-- Runs of code points, and what the first of each folds to. -/
def foldRuns : List (Nat × Nat × Nat) :=
  [(192, 214, 224), (216, 222, 248), (393, 394, 598), (433, 434, 650), (904, 906, 941),
  (910, 911, 973), (913, 929, 945), (931, 939, 963), (1021, 1023, 891), (1024, 1039, 1104),
  (1040, 1071, 1072), (1329, 1366, 1377), (4256, 4293, 11520), (5112, 5117, 5104),
  (7299, 7300, 1089), (7312, 7354, 4304), (7357, 7359, 4349), (7944, 7951, 7936),
  (7960, 7965, 7952), (7976, 7983, 7968), (7992, 7999, 7984), (8008, 8013, 8000),
  (8040, 8047, 8032), (8072, 8079, 8064), (8088, 8095, 8080), (8104, 8111, 8096),
  (8120, 8121, 8112), (8122, 8123, 8048), (8136, 8139, 8050), (8152, 8153, 8144),
  (8154, 8155, 8054), (8168, 8169, 8160), (8170, 8171, 8058), (8184, 8185, 8056),
  (8186, 8187, 8060), (8544, 8559, 8560), (9398, 9423, 9424), (11264, 11311, 11312),
  (11390, 11391, 575), (43888, 43967, 5024), (65313, 65338, 65345), (66560, 66599, 66600),
  (66736, 66771, 66776), (66928, 66938, 66967), (66940, 66954, 66979),
  (66956, 66962, 66995), (66964, 66965, 67003), (68736, 68786, 68800),
  (71840, 71871, 71872), (93760, 93791, 93792), (125184, 125217, 125218)]

/-- Runs in which every other code point folds to the one after it. -/
def foldPairs : List (Nat × Nat) :=
  [(256, 302), (306, 310), (313, 327), (330, 374), (377, 381), (386, 388), (391, 391),
  (395, 395), (401, 401), (408, 408), (416, 420), (423, 423), (428, 428), (431, 431),
  (435, 437), (440, 440), (444, 444), (453, 453), (456, 456), (459, 475), (478, 494),
  (498, 500), (504, 542), (546, 562), (571, 571), (577, 577), (582, 590), (880, 882),
  (886, 886), (962, 962), (984, 1006), (1015, 1015), (1018, 1018), (1120, 1152),
  (1162, 1214), (1217, 1229), (1232, 1326), (7680, 7828), (7840, 7934), (8579, 8579),
  (11360, 11360), (11367, 11371), (11378, 11378), (11381, 11381), (11392, 11490),
  (11499, 11501), (11506, 11506), (42560, 42604), (42624, 42650), (42786, 42798),
  (42802, 42862), (42873, 42875), (42878, 42886), (42891, 42891), (42896, 42898),
  (42902, 42920), (42932, 42946), (42951, 42953), (42960, 42960), (42966, 42968),
  (42997, 42997)]

def foldRune (char : Char) : Char :=
  let code := char.toNat
  if code < 128 then lowerChar char
  else if foldPairs.any fun (first, last) =>
      first ≤ code && code ≤ last && (code - first) % 2 == 0 then Char.ofNat (code + 1)
  else
    match foldRuns.find? fun (first, last, _) => first ≤ code && code ≤ last with
    | some (first, _, folded) => Char.ofNat (folded + (code - first))
    | none => Char.ofNat ((foldSingles.lookup code).getD code)

/-- `strings.EqualFold`. -/
def equalFold (first second : String) : Bool :=
  first.toList.map foldRune == second.toList.map foldRune

/-! ## Reading a text back -/

theorem append_cons_injective {α : Type} {separator : α} {first second : List α}
    (hfst : separator ∉ first) (hsnd : separator ∉ second) {rest other : List α}
    (h : first ++ separator :: rest = second ++ separator :: other) :
    first = second ∧ rest = other := by
  induction first generalizing second with
  | nil =>
    cases second with
    | nil => exact ⟨rfl, (List.cons.inj h).2⟩
    | cons head tail =>
      have hhead := (List.cons.inj h).1
      exact absurd (hhead ▸ List.mem_cons_self) hsnd
  | cons head tail ih =>
    cases second with
    | nil =>
      have hhead := (List.cons.inj h).1
      exact absurd (hhead ▸ List.mem_cons_self) hfst
    | cons head' tail' =>
      obtain ⟨rfl, htail⟩ := List.cons.inj h
      obtain ⟨rfl, hrest⟩ := ih (fun hm => hfst (.tail _ hm))
        (fun hm => hsnd (.tail _ hm)) htail
      exact ⟨rfl, hrest⟩

theorem append_toString_injective {text : String} {number other : Nat}
    (h : text ++ toString number = text ++ toString other) : number = other := by
  have hlist := congrArg String.toList h
  simp only [String.toList_append, Nat.toString_eq_repr, Nat.toList_repr,
    List.append_cancel_left_eq] at hlist
  have hvalue := congrArg (fun digits => Nat.ofDigitChars 10 digits 0) hlist
  simpa only [Nat.ofDigitChars_ten_toDigits] using hvalue

/-! ## The characters of hexadecimal text -/

def hexChars : List Char := "0123456789abcdef:".toList

theorem lowerChar_hexDigit {value : Nat} (h : value < 16) :
    lowerChar (hexDigit value) ∈ hexChars := by
  have hall : ∀ digit : Fin 16, lowerChar (hexDigit digit) ∈ hexChars := by
    decide
  exact hall ⟨value, h⟩

theorem lowerChar_hexByte {byte : UInt8} {char : Char} (h : char ∈ hexByte byte) :
    lowerChar char ∈ hexChars := by
  rcases List.mem_cons.mp h with rfl | h
  · exact lowerChar_hexDigit (Nat.div_lt_of_lt_mul byte.toNat_lt)
  · rw [List.mem_singleton.mp h]
    exact lowerChar_hexDigit (Nat.mod_lt _ (by decide))

theorem mem_toLower_hexString {data : Bytes} {char : Char}
    (h : char ∈ (toLower (hexString data)).toList) : char ∈ hexChars := by
  simp only [toLower, hexString, String.toList_ofList, List.mem_map, List.mem_flatten] at h
  obtain ⟨_, ⟨_, ⟨byte, -, rfl⟩, hchar⟩, rfl⟩ := h
  exact lowerChar_hexByte hchar

theorem mem_intersperse {α : Type} {separator item : α} {items : List α}
    (h : item ∈ items.intersperse separator) : item = separator ∨ item ∈ items := by
  induction items with
  | nil => cases h
  | cons first rest ih =>
    cases rest with
    | nil => exact .inr h
    | cons second rest =>
      rw [List.intersperse_cons_cons] at h
      rcases List.mem_cons.mp h with rfl | h
      · exact .inr (.head _)
      rcases List.mem_cons.mp h with rfl | h
      · exact .inl rfl
      · exact (ih h).imp id (List.mem_cons_of_mem first)

theorem mem_toLower_macString {data : Bytes} {char : Char}
    (h : char ∈ (toLower (macString data)).toList) : char ∈ hexChars := by
  simp only [toLower, macString, String.toList_ofList, List.mem_map, List.mem_flatten] at h
  obtain ⟨original, ⟨text, htext, hchar⟩, rfl⟩ := h
  rcases mem_intersperse htext with rfl | hm
  · rw [List.mem_singleton.mp hchar]
    decide
  · obtain ⟨byte, -, rfl⟩ := List.mem_map.mp hm
    exact lowerChar_hexByte hchar

end GvSwitch.Foundation
