/-
A text as its bytes in UTF-8, where a place is an offset in bytes. A text can only be cut between two
of its characters, so a slice between two places may not exist. A byte below 128 is a character of
its own, so that to find such a byte is to find the character.
-/
import QueryMethods.Proofs.Result
import QueryMethods.Proofs.Text.Blank

namespace QueryMethods.Text

/-- The bytes of a text. -/
def bytes (cs : List Char) : List UInt8 := cs.flatMap String.utf8EncodeChar

/-- A place between two characters of the text, or at one of its ends. -/
def IsBoundary (cs : List Char) (offset : Nat) : Prop :=
  ∃ before after, cs = before ++ after ∧ byteLength before = offset

/-- The text before a place and the text behind it; none if the place is not between characters. -/
def cut? : List Char → Nat → Option (List Char × List Char)
  | cs, 0 => some ([], cs)
  | [], _ + 1 => none
  | c :: rest, offset + 1 =>
    if c.utf8Size ≤ offset + 1 then
      (cut? rest (offset + 1 - c.utf8Size)).map fun (before, after) => (c :: before, after)
    else none

/-- The text between two places, if the first is not behind the second and both are between
characters of the text. -/
def slice? (cs : List Char) (start stop : Nat) : Option (List Char) :=
  if start ≤ stop then do
    let (_, behind) ← cut? cs start
    let (between, _) ← cut? behind (stop - start)
    some between
  else none

/-- The place of the first character of a kind. -/
def find? (p : Char → Bool) : List Char → Option Nat
  | [] => none
  | c :: rest => if p c then some 0 else (find? p rest).map (c.utf8Size + ·)

/-- The place where a pattern is first found. -/
def findText? (pattern : List Char) : List Char → Option Nat
  | [] => if pattern = [] then some 0 else none
  | c :: rest =>
    if pattern.isPrefixOf (c :: rest) then some 0 else (findText? pattern rest).map (c.utf8Size + ·)

/-! ## Boundaries -/

section

variable {cs before after between : List Char} {start stop offset : Nat}

theorem IsBoundary.le (h : IsBoundary cs offset) : offset ≤ byteLength cs := by
  obtain ⟨before, after, rfl, rfl⟩ := h
  rw [byteLength_append]
  exact Nat.le_add_right _ _

/-- A text that starts another one is told by its length. -/
theorem eq_of_byteLength : ∀ {a b c d : List Char}, a ++ b = c ++ d → byteLength a = byteLength c →
    a = c ∧ b = d
  | [], _, [], _, same, _ => ⟨rfl, same⟩
  | [], _, c :: _, _, _, length => by
    have pos := c.utf8Size_pos
    rw [byteLength_nil, byteLength_cons] at length
    omega
  | c :: _, _, [], _, _, length => by
    have pos := c.utf8Size_pos
    rw [byteLength_nil, byteLength_cons] at length
    omega
  | x :: a, b, y :: c, d, same, length => by
    rw [List.cons_append, List.cons_append, List.cons.injEq] at same
    obtain ⟨rfl, same⟩ := same
    rw [byteLength_cons, byteLength_cons, Nat.add_left_cancel_iff] at length
    obtain ⟨rfl, rfl⟩ := eq_of_byteLength same length
    exact ⟨rfl, rfl⟩

theorem cut?_eq_some : ∀ {cs before after : List Char} {offset : Nat},
    cut? cs offset = some (before, after) ↔ cs = before ++ after ∧ byteLength before = offset := by
  intro cs before after offset
  constructor
  · intro h
    induction cs, offset using cut?.induct generalizing before with
    | case1 cs =>
      rw [cut?] at h
      cases h
      exact ⟨rfl, rfl⟩
    | case2 => cases h
    | case3 c rest offset fits ih =>
      rw [cut?, if_pos fits] at h
      obtain ⟨⟨front, behind⟩, cut, h⟩ := Option.map_eq_some_iff.1 h
      cases h
      obtain ⟨rfl, length⟩ := ih cut
      rw [byteLength_cons]
      exact ⟨rfl, by omega⟩
    | case4 c rest offset wide =>
      rw [cut?, if_neg wide] at h
      cases h
  · rintro ⟨rfl, rfl⟩
    induction before with
    | nil => exact cut?.eq_1 _
    | cons c before ih =>
      have pos := c.utf8Size_pos
      obtain ⟨offset, length⟩ : ∃ offset, byteLength (c :: before) = offset + 1 :=
        ⟨byteLength (c :: before) - 1, by rw [byteLength_cons]; omega⟩
      have rest : offset + 1 - c.utf8Size = byteLength before := by
        rw [byteLength_cons] at length
        omega
      rw [length, List.cons_append, cut?, rest, ih, if_pos (by rw [← length, byteLength_cons]; omega)]
      rfl

theorem slice?_eq_some : slice? cs start stop = some between ↔ ∃ before after,
    cs = before ++ (between ++ after) ∧ byteLength before = start ∧
      start + byteLength between = stop := by
  unfold slice?
  constructor
  · intro h
    split at h
    · next order =>
      obtain ⟨⟨before, behind⟩, first, h⟩ := Option.bind_eq_some_iff.1 h
      obtain ⟨⟨_, after⟩, second, h⟩ := Option.bind_eq_some_iff.1 h
      cases h
      obtain ⟨rfl, lengthBefore⟩ := cut?_eq_some.1 first
      obtain ⟨rfl, lengthBetween⟩ := cut?_eq_some.1 second
      exact ⟨before, after, rfl, lengthBefore, by omega⟩
    · cases h
  · rintro ⟨before, after, rfl, rfl, rfl⟩
    have length : byteLength before + byteLength between - byteLength before = byteLength between := by
      omega
    rw [if_pos (Nat.le_add_right _ _), cut?_eq_some.2 ⟨rfl, rfl⟩]
    show (cut? (between ++ after) _ >>= _) = _
    rw [length, cut?_eq_some.2 ⟨rfl, rfl⟩]
    rfl

/-- A slice exists just between two boundaries in their order. -/
theorem slice?_isSome : (slice? cs start stop).isSome ↔
    start ≤ stop ∧ IsBoundary cs start ∧ IsBoundary cs stop := by
  rw [Option.isSome_iff_exists]
  constructor
  · rintro ⟨between, h⟩
    obtain ⟨before, after, whole, first, last⟩ := slice?_eq_some.1 h
    refine ⟨by omega, ⟨before, _, whole, first⟩, before ++ between, after, ?_, ?_⟩
    · rw [whole, List.append_assoc]
    · rw [byteLength_append, first, last]
  · rintro ⟨order, ⟨before, behind, whole, first⟩, upTo, after, whole', last⟩
    rw [whole] at whole'
    rcases List.append_eq_append_iff.1 whole' with ⟨between, rfl, rfl⟩ | ⟨more, rfl, rfl⟩
    · refine ⟨between, slice?_eq_some.2 ⟨before, after, whole, first, ?_⟩⟩
      rw [byteLength_append] at last
      omega
    · -- the first place is not behind the second, so that nothing is between them
      rw [byteLength_append] at first
      have none : more = [] := by
        cases more with
        | nil => rfl
        | cons c more =>
          have pos := c.utf8Size_pos
          rw [byteLength_cons] at first
          omega
      subst none
      refine ⟨[], slice?_eq_some.2 ⟨upTo, behind, by simpa using whole, by simpa using first, ?_⟩⟩
      rw [byteLength_nil] at first ⊢
      omega

theorem slice?_front (between after : List Char) :
    slice? (between ++ after) 0 (byteLength between) = some between :=
  slice?_eq_some.2 ⟨[], after, rfl, rfl, Nat.zero_add _⟩

theorem slice?_back (before between : List Char) :
    slice? (before ++ between) (byteLength before) (byteLength (before ++ between)) =
      some between := by
  refine slice?_eq_some.2 ⟨before, [], ?_, rfl, (byteLength_append ..).symm⟩
  rw [List.append_nil]

end

/-! ## Finding -/

section

variable {p : Char → Bool}

theorem find?_append {before : List Char} {c : Char} (after : List Char)
    (free : ∀ d ∈ before, p d = false) (found : p c = true) :
    find? p (before ++ c :: after) = some (byteLength before) := by
  induction before with
  | nil => exact if_pos found
  | cons d before ih =>
    obtain ⟨first, others⟩ := List.forall_mem_cons.1 free
    rw [List.cons_append, find?, if_neg (by rw [first]; exact Bool.false_ne_true), ih others]
    rfl

theorem find?_eq_none {cs : List Char} (free : ∀ d ∈ cs, p d = false) : find? p cs = none := by
  induction cs with
  | nil => rfl
  | cons d cs ih =>
    obtain ⟨first, others⟩ := List.forall_mem_cons.1 free
    rw [find?, if_neg (by rw [first]; exact Bool.false_ne_true), ih others]
    rfl

/-- The characters of one kind in front end where the first one of another kind is found. -/
theorem find?_not (p : Char → Bool) (cs : List Char) :
    (find? (fun c => !p c) cs).getD (byteLength cs) = byteLength (cs.takeWhile p) := by
  have split := List.takeWhile_append_dropWhile (p := p) (l := cs)
  have kind : ∀ d ∈ cs.takeWhile p, (!p d) = false := fun d hd => by
    rw [List.mem_takeWhile_imp hd]
    rfl
  cases behind : cs.dropWhile p with
  | nil =>
    rw [behind, List.append_nil] at split
    rw [split] at kind ⊢
    rw [find?_eq_none kind]
    rfl
  | cons c after =>
    have other : (!p c) = true := by
      have := List.head?_dropWhile_not p cs
      rw [behind] at this
      simpa using this
    rw [behind] at split
    conv_lhs => rw [← split, find?_append after kind other]
    rfl

end

/-! ## Bytes -/

section

variable {c : Char} {b : UInt8} {cs : List Char}

/-- Below 128 a byte is a character of its own. -/
theorem encode_of_small (mem : b ∈ String.utf8EncodeChar c) (small : b.toNat < 128) :
    String.utf8EncodeChar c = [b] ∧ c.toNat = b.toNat := by
  unfold String.utf8EncodeChar at mem ⊢
  dsimp only at mem ⊢
  split at mem
  · next ascii =>
    rw [if_pos ascii, List.mem_singleton.1 mem]
    refine ⟨rfl, ?_⟩
    rw [UInt8.toNat_ofNat', Nat.mod_eq_of_lt (by omega)]
    rfl
  · -- every byte of a longer character has its first bit set
    exfalso
    split at mem
    · simp only [List.mem_cons, List.not_mem_nil, or_false] at mem
      rcases mem with rfl | rfl <;> rw [UInt8.toNat_ofNat'] at small <;> omega
    · split at mem
      · simp only [List.mem_cons, List.not_mem_nil, or_false] at mem
        rcases mem with rfl | rfl | rfl <;> rw [UInt8.toNat_ofNat'] at small <;> omega
      · simp only [List.mem_cons, List.not_mem_nil, or_false] at mem
        rcases mem with rfl | rfl | rfl | rfl <;> rw [UInt8.toNat_ofNat'] at small <;> omega

/-- The characters of one byte. -/
def IsAscii (c : Char) : Prop := c.toNat < 128

instance (c : Char) : Decidable (IsAscii c) := Nat.decLt _ _

theorem IsAscii.encode (h : IsAscii c) : String.utf8EncodeChar c = [c.toUInt8] := by
  have small : c.val ≤ 127 := by
    rw [UInt32.le_iff_toNat_le]
    exact Nat.le_of_lt_succ h
  exact String.utf8EncodeChar_eq_singleton (Char.utf8Size_eq_one_iff.2 small)

theorem IsAscii.byteLength (h : IsAscii c) : byteLength [c] = 1 := by
  rw [byteLength_cons, ← String.length_utf8EncodeChar, h.encode]
  rfl

theorem IsAscii.byteLength_around {a : Char} (ha : IsAscii a) (hc : IsAscii c) (body : List Char) :
    Text.byteLength (a :: (body ++ [c])) = Text.byteLength body + 2 := by
  rw [← List.singleton_append, byteLength_append, byteLength_append, ha.byteLength, hc.byteLength]
  omega

theorem byteLength_comment (body : List Char) :
    byteLength ('/' :: '*' :: (body ++ ['*', '/'])) = byteLength body + 4 := by
  have signs : byteLength ['/', '*'] = 2 ∧ byteLength ['*', '/'] = 2 := by decide
  show byteLength (['/', '*'] ++ (body ++ ['*', '/'])) = _
  rw [byteLength_append, byteLength_append, signs.1, signs.2]
  omega

theorem IsAscii.toNat_toUInt8 (h : IsAscii c) : c.toUInt8.toNat = c.toNat := by
  have mem : c.toUInt8 ∈ String.utf8EncodeChar c := by
    rw [h.encode]
    exact List.mem_singleton_self _
  show c.val.toUInt8.toNat = _
  rw [UInt32.toNat_toUInt8]
  exact Nat.mod_eq_of_lt (Nat.lt_trans h (by decide))

/-- Only the character itself has its byte. -/
theorem IsAscii.eq_of_mem {a : Char} (h : IsAscii a) (mem : a.toUInt8 ∈ String.utf8EncodeChar c) :
    c = a := by
  have same := h.toNat_toUInt8
  obtain ⟨-, value⟩ := encode_of_small mem (same ▸ h)
  exact Char.toNat_inj.1 (value.trans same)

theorem IsAscii.eq_of_byte {a : Char} {k : Nat} (h : IsAscii a)
    (byte : (String.utf8EncodeChar c)[k]? = some a.toUInt8) : c = a ∧ k = 0 := by
  obtain rfl := h.eq_of_mem (List.mem_of_getElem? byte)
  rw [h.encode] at byte
  exact ⟨rfl, Nat.lt_one_iff.1 (List.getElem?_eq_some_iff.1 byte).1⟩

theorem bytes_cons (c : Char) (cs : List Char) :
    bytes (c :: cs) = String.utf8EncodeChar c ++ bytes cs := List.flatMap_cons

theorem bytes_append (a b : List Char) : bytes (a ++ b) = bytes a ++ bytes b := List.flatMap_append

theorem length_bytes : ∀ cs : List Char, (bytes cs).length = byteLength cs
  | [] => rfl
  | c :: cs => by
    rw [bytes_cons, List.length_append, length_bytes cs, String.length_utf8EncodeChar,
      byteLength_cons]

/-- Counted from a boundary, the bytes are those of the text behind it. -/
theorem getElem?_bytes_append (a b : List Char) (k : Nat) :
    (bytes (a ++ b))[byteLength a + k]? = (bytes b)[k]? := by
  rw [bytes_append, ← length_bytes, List.getElem?_append_right (Nat.le_add_right _ _),
    Nat.add_sub_cancel_left]

theorem IsAscii.mem_of_byte {a : Char} (h : IsAscii a) (mem : a.toUInt8 ∈ bytes cs) : a ∈ cs := by
  obtain ⟨c, hc, byte⟩ := List.mem_flatMap.1 mem
  rw [← h.eq_of_mem byte]
  exact hc

/-- A text starts with the byte of a character if it starts with the character. -/
theorem IsAscii.first_byte {a : Char} (h : IsAscii a) :
    (bytes cs)[0]? = some a.toUInt8 ↔ cs.head? = some a := by
  cases cs with
  | nil => exact ⟨nofun, nofun⟩
  | cons c cs =>
    have pos : 0 < (String.utf8EncodeChar c).length := by
      rw [String.length_utf8EncodeChar]
      exact c.utf8Size_pos
    rw [bytes_cons, List.getElem?_append_left pos, List.head?_cons, Option.some.injEq]
    constructor
    · intro byte
      exact h.eq_of_mem (List.mem_of_getElem? byte)
    · rintro rfl
      rw [h.encode]
      rfl

end

end QueryMethods.Text
