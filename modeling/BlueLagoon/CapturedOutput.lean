import BlueLagoon.Utf8

/-!
# Captured output

What a subprocess prints and what a fetch returns are kept up to a number of bytes. The bytes are
cut first and read as text afterwards, and what is ill-formed, also the character that the cut
goes through, is replaced by a character of three bytes.
-/

namespace BlueLagoon

namespace ToolExecution

open Utf8

/-- `truncate_utf8_lossy`, as the bytes of the text. -/
def truncateUtf8Lossy (bytes : List UInt8) (maxBytes : Nat) : List UInt8 :=
  let slice := if bytes.length > maxBytes then bytes.take maxBytes else bytes
  fromUtf8Lossy slice

variable {bytes : List UInt8} {maxBytes : Nat}

theorem truncateUtf8Lossy_eq (bytes : List UInt8) (maxBytes : Nat) :
    truncateUtf8Lossy bytes maxBytes = fromUtf8Lossy (bytes.take maxBytes) := by
  unfold truncateUtf8Lossy
  by_cases hlong : bytes.length > maxBytes
  · rw [if_pos hlong]
  · rw [if_neg hlong, List.take_of_length_le (Nat.le_of_not_lt hlong)]

/-- The text is within its budget, and it is the beginning of the input if that is a text. -/
structure RespectsBudget (bytes : List UInt8) (maxBytes : Nat) : Prop where
  within : (truncateUtf8Lossy bytes maxBytes).length ≤ maxBytes
  beginning : IsUtf8 bytes → truncateUtf8Lossy bytes maxBytes <+: bytes

/-- A cut through a character leaves a text that is too long, or that is not the beginning. -/
theorem not_respectsBudget_of_cut {front back : List Char} {c : Char} {cut : List UInt8}
    (hbytes : bytes = encode (front ++ c :: back))
    (htake : bytes.take maxBytes = encode front ++ cut)
    (hcut : cut <+: String.utf8EncodeChar c) (hne : cut ≠ [])
    (hshort : cut.length < (String.utf8EncodeChar c).length) :
    ¬ RespectsBudget bytes maxBytes := by
  intro h
  have hwhole : bytes = encode front ++ (String.utf8EncodeChar c ++ encode back) := by
    rw [hbytes]
    unfold encode
    rw [List.flatMap_append, List.flatMap_cons]
  have hpart := (isCharacter_encode c).readPart_cut hcut hne hshort
  have houtput : truncateUtf8Lossy bytes maxBytes = encode front ++ replacement := by
    rw [truncateUtf8Lossy_eq, htake, (fromUtf8Lossy_encode front cut).1, fromUtf8Lossy_eq hpart,
      List.drop_length, fromUtf8Lossy_nil, List.append_nil]
    rfl
  -- The whole budget is used, so only a cut of three bytes can be replaced within it.
  have hthree : 3 ≤ cut.length := by
    have hused : (bytes.take maxBytes).length = maxBytes := by
      rw [List.length_take]
      refine Nat.min_eq_left ?_
      by_contra hall
      have hsame := List.take_of_length_le (Nat.le_of_not_le hall)
      rw [htake, hwhole, List.append_cancel_left_eq] at hsame
      rw [hsame, List.length_append] at hshort
      omega
    have hwithin := h.within
    rw [houtput, List.length_append] at hwithin
    rw [htake, List.length_append] at hused
    have hreplaced : replacement.length = 3 := rfl
    omega
  obtain ⟨lead, rest, hlead, hwidth⟩ := (isCharacter_encode c).width_head
  have hbeginning := h.beginning ⟨_, hbytes⟩
  rw [houtput, hwhole, List.prefix_append_right_inj, hlead, List.cons_append] at hbeginning
  obtain ⟨hsame, -⟩ := List.cons_prefix_cons.mp hbeginning
  rw [← hsame] at hwidth
  have hthreeWide : width 0xEF = 3 := by decide
  omega

/-- The budget is respected exactly when the replacements in what is kept fit into what is left
of it, and a text is not cut within a character. -/
theorem respectsBudget_iff (bytes : List UInt8) (maxBytes : Nat) :
    RespectsBudget bytes maxBytes ↔
      growth (bytes.take maxBytes) ≤ maxBytes - (bytes.take maxBytes).length ∧
        (IsUtf8 bytes → IsUtf8 (bytes.take maxBytes)) := by
  have hlength : (truncateUtf8Lossy bytes maxBytes).length =
      (bytes.take maxBytes).length + growth (bytes.take maxBytes) := by
    rw [truncateUtf8Lossy_eq, length_fromUtf8Lossy]
  have hkept : (bytes.take maxBytes).length ≤ maxBytes := List.length_take_le _ _
  constructor
  · intro h
    have hwithin := h.within
    refine ⟨by omega, ?_⟩
    rintro ⟨text, hbytes⟩
    rcases take_encode text maxBytes with
      hutf8 | ⟨front, c, back, cut, htext, htake, hcut, hne, hshort⟩
    · rw [hbytes]
      exact hutf8
    · exfalso
      rw [← hbytes] at htake
      rw [htext] at hbytes
      exact not_respectsBudget_of_cut hbytes htake hcut hne hshort h
  · rintro ⟨hgrowth, hcut⟩
    refine ⟨by omega, fun hutf8 => ?_⟩
    rw [truncateUtf8Lossy_eq, (fromUtf8Lossy_of_isUtf8 (hcut hutf8)).1]
    exact List.take_prefix _ _

/-- Two bytes of a budget of two are cut from the three of a character, and replaced by three. -/
theorem not_respectsBudget_cut : ¬ RespectsBudget (encode ['a', '€']) 2 := by
  intro h
  have hlength : (truncateUtf8Lossy (encode ['a', '€']) 2).length = 4 := by decide +kernel
  have hwithin := h.within
  rw [hlength] at hwithin
  exact absurd hwithin (by decide)

end ToolExecution

end BlueLagoon
