import Mathlib.Data.List.TakeDrop
import Mathlib.Data.List.Infix
import Mathlib.Algebra.BigOperators.Group.List.Basic
import Mathlib.Algebra.GroupWithZero.Nat

/-!
# UTF-8

Byte strings read as UTF-8, with a replacement character for what is ill-formed. An ill-formed
part goes on as long as it could still become a character, so that it has one to three bytes; the
replacement has three.
-/

namespace Utf8

/-! ## Parts -/

/-- How many bytes a character with this first byte has; none when no character begins with it. -/
def width (lead : UInt8) : Nat :=
  if lead.toNat < 0x80 then 1
  else if lead.toNat < 0xC2 then 0
  else if lead.toNat < 0xE0 then 2
  else if lead.toNat < 0xF0 then 3
  else if lead.toNat < 0xF5 then 4
  else 0

/-- A byte that continues a character. -/
def isTail (byte : UInt8) : Bool := 0x80 ≤ byte.toNat && byte.toNat ≤ 0xBF

/-- The second byte may follow the first one: overlong forms, surrogates and numbers that are too
large are left out. -/
def secondFits (lead second : UInt8) : Bool :=
  isTail second &&
    (if lead.toNat = 0xE0 then 0xA0 ≤ second.toNat
    else if lead.toNat = 0xED then second.toNat ≤ 0x9F
    else if lead.toNat = 0xF0 then 0x90 ≤ second.toNat
    else if lead.toNat = 0xF4 then second.toNat ≤ 0x8F
    else true)

/-- How many of the first `n` bytes continue a character, up to the first that does not. -/
def tails : Nat → List UInt8 → Nat
  | 0, _ => 0
  | _ + 1, [] => 0
  | n + 1, byte :: bytes => if isTail byte then tails n bytes + 1 else 0

/-- A part with a first byte that further bytes must follow: whether it is a character, and how
many bytes it has. -/
def readRest (lead : UInt8) : List UInt8 → Bool × Nat
  | [] => (false, 1)
  | second :: more =>
    if secondFits lead second then
      (decide (2 + tails (width lead - 2) more = width lead), 2 + tails (width lead - 2) more)
    else (false, 1)

/-- The next part of a byte string: whether it is a character, and how many bytes it has. -/
def readPart : List UInt8 → Option (Bool × Nat)
  | [] => none
  | lead :: rest =>
    some (if width lead ≤ 1 then (decide (width lead = 1), 1) else readRest lead rest)

/-- What stands for an ill-formed part, U+FFFD. -/
def replacement : List UInt8 := [0xEF, 0xBF, 0xBD]

theorem readPart_wide {lead : UInt8} (h : ¬ width lead ≤ 1) (rest : List UInt8) :
    readPart (lead :: rest) = some (readRest lead rest) := by
  show some (if width lead ≤ 1 then _ else _) = _
  rw [if_neg h]

theorem readRest_fits {lead second : UInt8} (h : secondFits lead second) (more : List UInt8) :
    readRest lead (second :: more) =
      (decide (2 + tails (width lead - 2) more = width lead), 2 + tails (width lead - 2) more) :=
  if_pos h

theorem width_le (lead : UInt8) : width lead ≤ 4 := by
  unfold width
  split_ifs <;> omega

theorem tails_le (n : Nat) (bytes : List UInt8) : tails n bytes ≤ n ∧ tails n bytes ≤ bytes.length := by
  induction bytes generalizing n with
  | nil => cases n <;> exact ⟨Nat.zero_le _, Nat.zero_le _⟩
  | cons byte bytes ih =>
    cases n with
    | zero => exact ⟨Nat.zero_le _, Nat.zero_le _⟩
    | succ n =>
      unfold tails
      split
      · exact ⟨Nat.succ_le_succ (ih n).1, Nat.succ_le_succ (ih n).2⟩
      · exact ⟨Nat.zero_le _, Nat.zero_le _⟩

theorem readRest_bounds (lead : UInt8) (rest : List UInt8) :
    0 < (readRest lead rest).2 ∧ (readRest lead rest).2 ≤ rest.length + 1 ∧
      ((readRest lead rest).1 = false → (readRest lead rest).2 ≤ 3) := by
  cases rest with
  | nil => exact ⟨Nat.one_pos, Nat.le_refl 1, fun _ => (by decide : 1 ≤ 3)⟩
  | cons second more =>
    have hwidth := width_le lead
    obtain ⟨hle, hlength⟩ := tails_le (width lead - 2) more
    by_cases hfits : secondFits lead second
    · rw [readRest_fits hfits]
      dsimp only
      refine ⟨by omega, ?_, fun hwhole => ?_⟩
      · simp only [List.length_cons]
        omega
      · have hshort := of_decide_eq_false hwhole
        omega
    · have hread : readRest lead (second :: more) = (false, 1) := if_neg hfits
      rw [hread]
      exact ⟨Nat.one_pos, Nat.le_add_left 1 _, fun _ => (by decide : 1 ≤ 3)⟩

/-- A part has at least one byte, and an ill-formed one at most three. -/
theorem readPart_bounds {bytes : List UInt8} {whole : Bool} {n : Nat}
    (h : readPart bytes = some (whole, n)) :
    0 < n ∧ n ≤ bytes.length ∧ (whole = false → n ≤ 3) := by
  cases bytes with
  | nil => cases h
  | cons lead rest =>
    have hpart := Option.some.inj h
    split at hpart
    · obtain ⟨-, rfl⟩ := Prod.mk.inj hpart
      exact ⟨Nat.one_pos, Nat.le_add_left 1 _, fun _ => by decide⟩
    · have hbounds := readRest_bounds lead rest
      rw [hpart] at hbounds
      exact hbounds

/-! ## Lossy reading -/

/-- `String::from_utf8_lossy`, as the bytes of the text. -/
def fromUtf8Lossy (bytes : List UInt8) : List UInt8 :=
  match _hpart : readPart bytes with
  | none => []
  | some (whole, n) =>
    (if whole then bytes.take n else replacement) ++ fromUtf8Lossy (bytes.drop n)
termination_by bytes.length
decreasing_by
  have hbounds := readPart_bounds _hpart
  rw [List.length_drop]
  omega

/-- The lengths of the ill-formed parts. -/
def illFormed (bytes : List UInt8) : List Nat :=
  match _hpart : readPart bytes with
  | none => []
  | some (whole, n) => (if whole then [] else [n]) ++ illFormed (bytes.drop n)
termination_by bytes.length
decreasing_by
  have hbounds := readPart_bounds _hpart
  rw [List.length_drop]
  omega

/-- The bytes by which the replacements are longer than what they stand for. -/
def growth (bytes : List UInt8) : Nat := ((illFormed bytes).map fun n => 3 - n).sum

variable {bytes : List UInt8} {whole : Bool} {n : Nat}

theorem fromUtf8Lossy_eq (h : readPart bytes = some (whole, n)) :
    fromUtf8Lossy bytes =
      (if whole then bytes.take n else replacement) ++ fromUtf8Lossy (bytes.drop n) := by
  rw [fromUtf8Lossy]
  split
  · next hnone =>
    rw [h] at hnone
    cases hnone
  · next hsome =>
    rw [h] at hsome
    obtain ⟨rfl, rfl⟩ := Prod.mk.inj (Option.some.inj hsome)
    rfl

theorem growth_eq (h : readPart bytes = some (whole, n)) :
    growth bytes = (if whole then 0 else 3 - n) + growth (bytes.drop n) := by
  unfold growth
  rw [illFormed]
  split
  · next hnone =>
    rw [h] at hnone
    cases hnone
  · next hsome =>
    rw [h] at hsome
    obtain ⟨rfl, rfl⟩ := Prod.mk.inj (Option.some.inj hsome)
    cases whole <;> simp

theorem fromUtf8Lossy_nil : fromUtf8Lossy [] = [] := by
  rw [fromUtf8Lossy]
  rfl

theorem growth_nil : growth [] = 0 := by
  unfold growth
  rw [illFormed]
  rfl

theorem readPart_eq_none : readPart bytes = none ↔ bytes = [] := by
  cases bytes with
  | nil => exact iff_of_true rfl rfl
  | cons lead rest => exact iff_of_false (fun h => by cases h) (List.cons_ne_nil _ _)

/-- A text that was read lossily is longer than its bytes by what the replacements add. -/
theorem length_fromUtf8Lossy (bytes : List UInt8) :
    (fromUtf8Lossy bytes).length = bytes.length + growth bytes := by
  induction hn : bytes.length using Nat.strong_induction_on generalizing bytes with
  | _ m ih =>
    cases hpart : readPart bytes with
    | none =>
      obtain rfl := readPart_eq_none.mp hpart
      rw [← hn, fromUtf8Lossy_nil, growth_nil]
      rfl
    | some part =>
      obtain ⟨whole, n⟩ := part
      obtain ⟨hpos, hle, hshort⟩ := readPart_bounds hpart
      have hrest := ih (bytes.drop n).length (by rw [List.length_drop]; omega) _ rfl
      rw [fromUtf8Lossy_eq hpart, growth_eq hpart, List.length_append, hrest, List.length_drop]
      cases whole with
      | true =>
        simp only [if_true, List.length_take]
        omega
      | false =>
        have hreplaced : replacement.length = 3 := rfl
        have hthree := hshort rfl
        simp only [Bool.false_eq_true, if_false, hreplaced]
        omega

/-! ## Characters -/

/-- The bytes of a character: as many as the first one says, and each fits. -/
structure IsCharacter (bytes : List UInt8) : Prop where
  spelled : ∃ lead, bytes = [lead] ∧ width lead = 1 ∨
    ∃ second more, bytes = lead :: second :: more ∧ width lead = more.length + 2 ∧
      secondFits lead second ∧ ∀ byte ∈ more, isTail byte

/-- The first byte says how many there are. -/
theorem IsCharacter.width_head (h : IsCharacter bytes) :
    ∃ lead rest, bytes = lead :: rest ∧ width lead = bytes.length := by
  obtain ⟨lead, ⟨rfl, hwidth⟩ | ⟨second, more, rfl, hwidth, -, -⟩⟩ := h.spelled
  · exact ⟨lead, [], rfl, hwidth⟩
  · exact ⟨lead, second :: more, rfl, hwidth⟩

theorem tails_of_all {more : List UInt8} (h : ∀ byte ∈ more, isTail byte) (n : Nat)
    (rest : List UInt8) : tails (more.length + n) (more ++ rest) = more.length + tails n rest := by
  induction more with
  | nil =>
    rw [List.length_nil, Nat.zero_add, Nat.zero_add]
    rfl
  | cons byte more ih =>
    have hrest := ih fun other hother => h other (List.mem_cons_of_mem _ hother)
    have hstep : tails (more.length + n + 1) (byte :: (more ++ rest)) =
        tails (more.length + n) (more ++ rest) + 1 := if_pos (h byte List.mem_cons_self)
    rw [List.length_cons, List.cons_append, Nat.add_right_comm, hstep, hrest, Nat.add_right_comm]

/-- A character is read as a whole. -/
theorem IsCharacter.readPart_append (h : IsCharacter bytes) (rest : List UInt8) :
    readPart (bytes ++ rest) = some (true, bytes.length) := by
  obtain ⟨lead, ⟨rfl, hwidth⟩ | ⟨second, more, rfl, hwidth, hsecond, hmore⟩⟩ := h.spelled
  · show some (if width lead ≤ 1 then _ else _) = _
    rw [hwidth]
    rfl
  · have hwide : ¬ width lead ≤ 1 := by omega
    have htails : tails more.length (more ++ rest) = more.length := tails_of_all hmore 0 rest
    rw [List.cons_append, List.cons_append, readPart_wide hwide, readRest_fits hsecond, hwidth,
      Nat.add_sub_cancel, htails, Nat.add_comm, decide_eq_true rfl]
    rfl

/-- A character that is cut off is one ill-formed part. -/
theorem IsCharacter.readPart_cut {front : List UInt8} (h : IsCharacter bytes)
    (hfront : front <+: bytes) (hne : front ≠ []) (hcut : front.length < bytes.length) :
    readPart front = some (false, front.length) := by
  obtain ⟨first, front, rfl⟩ := List.exists_cons_of_ne_nil hne
  obtain ⟨lead, ⟨rfl, hwidth⟩ | ⟨second, more, rfl, hwidth, hsecond, hmore⟩⟩ := h.spelled
  · simp at hcut
  · obtain ⟨rfl, hrest⟩ := List.cons_prefix_cons.mp hfront
    clear hfront
    have hwide : ¬ width first ≤ 1 := by omega
    rw [readPart_wide hwide]
    cases front with
    | nil => rfl
    | cons next front =>
      obtain ⟨rfl, hfront⟩ := List.cons_prefix_cons.mp hrest
      simp only [List.length_cons] at hcut
      have htails : tails more.length front = front.length := by
        have hall := tails_of_all (fun byte hbyte => hmore byte (hfront.subset hbyte))
          (more.length - front.length) []
        rw [List.append_nil, Nat.add_sub_cancel' hfront.length_le] at hall
        rw [hall]
        cases more.length - front.length <;> rfl
      have hshort : 2 + front.length ≠ more.length + 2 := by omega
      rw [readRest_fits hsecond, hwidth, Nat.add_sub_cancel, htails, decide_eq_false hshort,
        Nat.add_comm]
      rfl

theorem toNat_ofNat_of_lt {n : Nat} (h : n < 256) : (UInt8.ofNat n).toNat = n := by
  rw [UInt8.toNat_ofNat']
  exact Nat.mod_eq_of_lt h

theorem isTail_ofNat (n : Nat) : isTail (UInt8.ofNat (n % 64 + 128)) := by
  unfold isTail
  rw [toNat_ofNat_of_lt (by omega), Bool.and_eq_true, decide_eq_true_eq, decide_eq_true_eq]
  omega

/-- The bytes of every character are such. -/
theorem isCharacter_encode (c : Char) : IsCharacter (String.utf8EncodeChar c) := by
  have hvalid : c.val.toNat < 0xD800 ∨ 0xDFFF < c.val.toNat ∧ c.val.toNat < 0x110000 := c.valid
  unfold String.utf8EncodeChar
  generalize c.val.toNat = v at hvalid
  dsimp only
  split_ifs with hone htwo hthree
  · refine ⟨⟨_, Or.inl ⟨rfl, ?_⟩⟩⟩
    unfold width
    rw [toNat_ofNat_of_lt (by omega), if_pos (by omega)]
  · refine ⟨⟨_, Or.inr ⟨_, [], rfl, ?_, ?_, fun byte hbyte => by cases hbyte⟩⟩⟩
    · unfold width
      rw [toNat_ofNat_of_lt (by omega)]
      split_ifs <;> first | rfl | omega
    · unfold secondFits
      rw [isTail_ofNat, toNat_ofNat_of_lt (n := v / 64 % 32 + 192) (by omega),
        toNat_ofNat_of_lt (n := v % 64 + 128) (by omega), Bool.true_and]
      split_ifs <;> simp <;> omega
  · refine ⟨⟨_, Or.inr ⟨_, [_], rfl, ?_, ?_, fun byte hbyte => ?_⟩⟩⟩
    · unfold width
      rw [toNat_ofNat_of_lt (by omega)]
      split_ifs <;> first | rfl | omega
    · unfold secondFits
      rw [isTail_ofNat, toNat_ofNat_of_lt (n := v / 4096 % 16 + 224) (by omega),
        toNat_ofNat_of_lt (n := v / 64 % 64 + 128) (by omega), Bool.true_and]
      split_ifs <;> simp <;> omega
    · rw [List.mem_singleton.mp hbyte]
      exact isTail_ofNat v
  · refine ⟨⟨_, Or.inr ⟨_, [_, _], rfl, ?_, ?_, fun byte hbyte => ?_⟩⟩⟩
    · unfold width
      rw [toNat_ofNat_of_lt (by omega)]
      split_ifs <;> first | rfl | omega
    · unfold secondFits
      rw [isTail_ofNat, toNat_ofNat_of_lt (n := v / 262144 % 8 + 240) (by omega),
        toNat_ofNat_of_lt (n := v / 4096 % 64 + 128) (by omega), Bool.true_and]
      split_ifs <;> simp <;> omega
    · rcases List.mem_cons.mp hbyte with rfl | hbyte
      · exact isTail_ofNat (v / 64)
      · rw [List.mem_singleton.mp hbyte]
        exact isTail_ofNat v

/-! ## Texts -/

/-- The UTF-8 bytes of a text. -/
def encode (text : List Char) : List UInt8 := text.flatMap String.utf8EncodeChar

/-- The bytes are those of a text. -/
def IsUtf8 (bytes : List UInt8) : Prop := ∃ text, bytes = encode text

theorem encode_cons (c : Char) (text : List Char) :
    encode (c :: text) = String.utf8EncodeChar c ++ encode text := List.flatMap_cons

/-- Behind a character, the rest is read on its own. -/
theorem fromUtf8Lossy_character (c : Char) (rest : List UInt8) :
    fromUtf8Lossy (String.utf8EncodeChar c ++ rest) =
        String.utf8EncodeChar c ++ fromUtf8Lossy rest ∧
      growth (String.utf8EncodeChar c ++ rest) = growth rest := by
  have hpart := (isCharacter_encode c).readPart_append rest
  rw [fromUtf8Lossy_eq hpart, growth_eq hpart, if_pos rfl, if_pos rfl, List.take_left,
    List.drop_left, Nat.zero_add]
  exact ⟨rfl, rfl⟩

/-- A text at the front is read as it is. -/
theorem fromUtf8Lossy_encode (text : List Char) (rest : List UInt8) :
    fromUtf8Lossy (encode text ++ rest) = encode text ++ fromUtf8Lossy rest ∧
      growth (encode text ++ rest) = growth rest := by
  induction text with
  | nil => exact ⟨rfl, rfl⟩
  | cons c text ih =>
    obtain ⟨hlossy, hgrowth⟩ := fromUtf8Lossy_character c (encode text ++ rest)
    rw [encode_cons, List.append_assoc, hlossy, hgrowth, ih.1, ih.2, List.append_assoc]
    exact ⟨rfl, rfl⟩

/-- A text is read as it is. -/
theorem fromUtf8Lossy_of_isUtf8 (h : IsUtf8 bytes) :
    fromUtf8Lossy bytes = bytes ∧ growth bytes = 0 := by
  obtain ⟨text, rfl⟩ := h
  have hread := fromUtf8Lossy_encode text []
  rw [List.append_nil, fromUtf8Lossy_nil, growth_nil, List.append_nil] at hread
  exact hread

/-- A text that is cut ends between characters, or within one. -/
theorem take_encode (text : List Char) (n : Nat) :
    IsUtf8 ((encode text).take n) ∨
      ∃ front c back cut, text = front ++ c :: back ∧ (encode text).take n = encode front ++ cut ∧
        cut <+: String.utf8EncodeChar c ∧ cut ≠ [] ∧
        cut.length < (String.utf8EncodeChar c).length := by
  induction text generalizing n with
  | nil => exact Or.inl ⟨[], List.take_nil⟩
  | cons c text ih =>
    rw [encode_cons, List.take_append]
    by_cases hwhole : (String.utf8EncodeChar c).length ≤ n
    · rw [List.take_of_length_le hwhole]
      rcases ih (n - (String.utf8EncodeChar c).length) with
        ⟨front, hfront⟩ | ⟨front, d, back, cut, htext, htake, hcut⟩
      · left
        refine ⟨c :: front, ?_⟩
        rw [hfront, encode_cons]
      · right
        refine ⟨c :: front, d, back, cut, ?_, ?_, hcut⟩
        · rw [htext, List.cons_append]
        · rw [htake, encode_cons, List.append_assoc]
    · have hrest : (encode text).take (n - (String.utf8EncodeChar c).length) = [] := by
        rw [Nat.sub_eq_zero_of_le (by omega), List.take_zero]
      rw [hrest, List.append_nil]
      by_cases hnone : n = 0
      · left
        refine ⟨[], ?_⟩
        rw [hnone, List.take_zero]
        rfl
      · right
        refine ⟨[], c, text, _, rfl, rfl, List.take_prefix _ _, ?_, ?_⟩
        · intro hnil
          rcases List.take_eq_nil_iff.mp hnil with hzero | hempty
          · exact hnone hzero
          · exact String.utf8EncodeChar_ne_nil hempty
        · rw [List.length_take]
          omega

end Utf8
