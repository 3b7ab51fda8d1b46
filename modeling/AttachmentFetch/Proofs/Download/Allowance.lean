import Mathlib.Algebra.Order.Floor.Div
import Mathlib.GroupTheory.GroupAction.Ring
import AttachmentFetch.Proofs.Download.Compact
import AttachmentFetch.Proofs.Duration

/-! How long the body of a response may be. The length that is allowed for a JSON envelope
is computed in words that stop at the greatest one. The envelope of a blob within the limit
is allowed, up to about the length that has no room in a word when it is taken four times. -/
namespace AttachmentFetch.Transfer

/-! Arithmetic of words that stops at the greatest one, or rounds up. -/

def saturatingTimes (a b : UInt64) : UInt64 :=
  (checkedTimes a b).getD (UInt64.ofNat ceiling)

def saturatingPlus (a b : UInt64) : UInt64 :=
  (checkedPlus a b).getD (UInt64.ofNat ceiling)

def dividedUp (a b : UInt64) : UInt64 :=
  if 0 < a % b then a / b + 1 else a / b

theorem toNat_getD_ceiling {checked : Option UInt64} {exact : Nat}
    (fitting : exact < UInt64.size → checked = some (UInt64.ofNat exact))
    (beyond : ¬exact < UInt64.size → checked = none) :
    (checked.getD (UInt64.ofNat ceiling)).toNat = min exact ceiling := by
  by_cases fits : exact < UInt64.size
  · rw [fitting fits, Option.getD_some, UInt64.toNat_ofNat_of_lt' fits]
    exact (Nat.min_eq_left (Nat.le_pred_of_lt fits)).symm
  · rw [beyond fits, Option.getD_none]
    exact (Nat.min_eq_right ((Nat.pred_le _).trans (Nat.not_lt.1 fits))).symm

theorem toNat_saturatingTimes (a b : UInt64) :
    (saturatingTimes a b).toNat = min (a.toNat * b.toNat) ceiling :=
  toNat_getD_ceiling checkedTimes_of_lt fun beyond => if_neg beyond

theorem toNat_saturatingPlus (a b : UInt64) :
    (saturatingPlus a b).toNat = min (a.toNat + b.toNat) ceiling :=
  toNat_getD_ceiling checkedPlus_of_lt fun beyond => if_neg beyond

theorem toNat_dividedUp (a : UInt64) {b : UInt64} (positive : 0 < b.toNat) :
    (dividedUp a b).toNat = a.toNat ⌈/⌉ b.toNat := by
  have whole := Nat.div_add_mod' a.toNat b.toNat
  have below := Nat.mod_lt a.toNat positive
  rw [Nat.ceilDiv_eq_add_pred_div]
  unfold dividedUp
  split
  next left =>
    rw [UInt64.lt_iff_toNat_lt, UInt64.toNat_mod] at left
    change 0 < a.toNat % b.toNat at left
    -- Something is left over, so the divisor is two at least and there is room for one more.
    have half : a.toNat / b.toNat ≤ a.toNat / 2 := Nat.div_le_div_left (by omega) (by decide)
    have room := a.toNat_lt
    rw [UInt64.toNat_add, UInt64.toNat_div, UInt64.toNat_one, Nat.mod_eq_of_lt (by omega)]
    refine (Nat.div_eq_of_lt_le ?_ ?_).symm
    · rw [Nat.add_mul]
      omega
    · rw [Nat.add_mul, Nat.add_mul]
      omega
  next nothing =>
    rw [UInt64.lt_iff_toNat_lt, UInt64.toNat_mod] at nothing
    change ¬0 < a.toNat % b.toNat at nothing
    rw [UInt64.toNat_div]
    refine (Nat.div_eq_of_lt_le ?_ ?_).symm
    · omega
    · rw [Nat.add_mul]
      omega

/-- The length that is allowed for a JSON envelope, as a machine of 64 bits comes to it. -/
def allowance (limit : UInt64) : UInt64 :=
  saturatingPlus (dividedUp (saturatingTimes limit 4) 3) 1024

variable {limit larger : UInt64}

theorem toNat_allowance (limit : UInt64) :
    (allowance limit).toNat = longestBody .jsonEnvelope limit := by
  have three : (3 : UInt64).toNat = 3 := rfl
  rw [allowance, toNat_saturatingPlus, toNat_dividedUp _ (by decide), toNat_saturatingTimes, three,
    Nat.ceilDiv_eq_add_pred_div]
  rfl

/-- The product stops short where four limits have no room in a word; the sum never does. -/
theorem longestBody_jsonEnvelope (limit : UInt64) :
    longestBody .jsonEnvelope limit = min ((4 * limit.toNat) ⌈/⌉ 3) (ceiling / 3) + 1024 := by
  simp only [longestBody, Nat.ceilDiv_eq_add_pred_div, envelopeOverhead, ceiling, UInt64.size]
  omega

theorem longestBody_mono (h : limit ≤ larger) :
    longestBody .jsonEnvelope limit ≤ longestBody .jsonEnvelope larger := by
  have h : limit.toNat ≤ larger.toNat := UInt64.le_iff_toNat_le.1 h
  rw [longestBody_jsonEnvelope, longestBody_jsonEnvelope, Nat.ceilDiv_eq_add_pred_div,
    Nat.ceilDiv_eq_add_pred_div]
  omega

/-- The greatest length of a blob whose compact envelope is allowed whenever the blob is. -/
def longestCompact : Nat := 2 ^ 62 + 758

/-- Rounding to groups of three costs less than the overhead leaves, for every blob up to the
length at which the product stops short, and for a few longer ones. -/
theorem encoded_fits_iff {length : Nat} (within : length ≤ limit.toNat) :
    4 * (length ⌈/⌉ 3) + 13 ≤ longestBody .jsonEnvelope limit ↔ length ≤ longestCompact := by
  have small := limit.toNat_lt
  rw [longestBody_jsonEnvelope, Nat.ceilDiv_eq_add_pred_div, Nat.ceilDiv_eq_add_pred_div]
  unfold longestCompact ceiling UInt64.size
  omega

theorem length_compact_ceilDiv (blob : Bytes) :
    (compact blob).length = 4 * (blob.length ⌈/⌉ 3) + 13 := by
  rw [Nat.ceilDiv_eq_add_pred_div]
  exact length_compact blob

theorem length_compact_le_iff {blob : Bytes} (within : blob.length ≤ limit.toNat) :
    (compact blob).length ≤ longestBody .jsonEnvelope limit ↔ blob.length ≤ longestCompact := by
  rw [length_compact_ceilDiv]
  exact encoded_fits_iff within

theorem declared_within {format : BodyFormat} {declared : Option Nat} {length : Nat}
    (fits : length ≤ longestBody format limit)
    (announced : ∀ other, declared = some other → other = length) :
    declared.any (longestBody format limit < ·) = false := by
  rw [Option.any_eq_false_iff_get]
  intro given
  rw [announced _ (Option.some_get given).symm]
  simpa using fits

variable (limit) in
theorem collect_within {most : Nat} {body : Bytes} {chunks : List Bytes}
    (within : body.length + chunks.flatten.length ≤ most) :
    collect limit most .complete body chunks = .ok (body ++ chunks.flatten) := by
  induction chunks generalizing body with
  | nil => simp [collect, endingError?]
  | cons chunk rest ih =>
    rw [List.flatten_cons, List.length_append] at within
    rw [collect, if_neg (by omega), ih (by rw [List.length_append]; omega), List.flatten_cons,
      List.append_assoc]

/-- The length that is allowed is the one that words come to, none of whose steps wraps. It is
no more than the limit takes in base64, and the overhead, and it grows with the limit. No blob
within the limit, of whatever length up to 2^61, is turned away: neither by the length that is
announced for its envelope nor while it arrives. -/
theorem allowance_admits :
    (∀ limit : UInt64, (allowance limit).toNat = longestBody .jsonEnvelope limit ∧
      longestBody .jsonEnvelope limit ≤ (4 * limit.toNat) ⌈/⌉ 3 + 1024) ∧
    (∀ limit larger : UInt64, limit ≤ larger →
      longestBody .jsonEnvelope limit ≤ longestBody .jsonEnvelope larger) ∧
    (∀ (limit : UInt64) (length : Nat), length ≤ min limit.toNat (2 ^ 61) →
      4 * (length ⌈/⌉ 3) + 13 ≤ longestBody .jsonEnvelope limit) ∧
    ∀ blob : Bytes, (compact blob).length = 4 * (blob.length ⌈/⌉ 3) + 13 ∧
      ∀ (limit : UInt64) (response : Http.Response), blob.length ≤ min limit.toNat (2 ^ 61) →
        response.ending = .complete → response.chunks.flatten = compact blob →
        (∀ length, response.declared = some length → length = (compact blob).length) →
        response.declared.any (longestBody .jsonEnvelope limit < ·) = false ∧
        collect limit (longestBody .jsonEnvelope limit) response.ending [] response.chunks =
          .ok (compact blob) := by
  have fits {limit : UInt64} {length : Nat} (h : length ≤ min limit.toNat (2 ^ 61)) :
      4 * (length ⌈/⌉ 3) + 13 ≤ longestBody .jsonEnvelope limit := by
    obtain ⟨within, short⟩ := Nat.le_min.1 h
    exact (encoded_fits_iff within).2 (short.trans (by decide))
  refine ⟨fun limit => ⟨toNat_allowance limit, ?_⟩, fun limit larger => longestBody_mono,
    fun limit length => fits, fun blob => ⟨length_compact_ceilDiv blob, ?_⟩⟩
  · rw [longestBody_jsonEnvelope]
    exact Nat.add_le_add_right (Nat.min_le_left ..) _
  · intro limit response small complete arrived announced
    have room : (compact blob).length ≤ longestBody .jsonEnvelope limit := by
      rw [length_compact_ceilDiv]
      exact fits small
    refine ⟨declared_within room announced, ?_⟩
    rw [complete, collect_within limit (by simpa [arrived] using room), arrived, List.nil_append]

/-- The product stops short at the greatest limit, and still leaves room for the longest blob.
Four bytes in two pieces are allowed by a limit of four, though their envelope is longer. -/
theorem allowance_admits_pieces :
    let greatest : UInt64 := UInt64.ofNat ceiling
    let pieces : Http.Response :=
      { status := 200, declared := some 21, chunks := [(compact [1, 2, 3, 4]).take 9,
          (compact [1, 2, 3, 4]).drop 9] }
    (4 ≤ greatest ∧ longestBody .jsonEnvelope 4 ≤ longestBody .jsonEnvelope greatest) ∧
      (2 ^ 61 ≤ min greatest.toNat (2 ^ 61) ∧
        4 * (2 ^ 61 ⌈/⌉ 3) + 13 ≤ longestBody .jsonEnvelope greatest) ∧
      ([1, 2, 3, 4] : Bytes).length ≤ min (4 : UInt64).toNat (2 ^ 61) ∧
      pieces.ending = .complete ∧ pieces.chunks.flatten = compact [1, 2, 3, 4] ∧
      (∀ length, pieces.declared = some length → length = (compact [1, 2, 3, 4]).length) ∧
      pieces.declared.any (longestBody .jsonEnvelope 4 < ·) = false ∧
      collect 4 (longestBody .jsonEnvelope 4) pieces.ending [] pieces.chunks =
        .ok (compact [1, 2, 3, 4]) := by
  intro greatest pieces
  obtain ⟨-, mono, room, admits⟩ := allowance_admits
  have whole : pieces.chunks.flatten = compact [1, 2, 3, 4] := by simp [pieces]
  have announced : ∀ length, pieces.declared = some length →
      length = (compact [1, 2, 3, 4]).length := by
    intro length announced
    rw [← Option.some.inj announced, length_compact]
    rfl
  have passed := (admits [1, 2, 3, 4]).2 4 pieces (by decide) rfl whole announced
  exact ⟨⟨by decide, mono 4 greatest (by decide)⟩, ⟨by decide, room greatest _ (by decide)⟩,
    by decide, rfl, whole, announced, passed⟩

end AttachmentFetch.Transfer
