import AttachmentFetch.Proofs.Text.Encodings

/-! Base64 is read only as it is written: what can be decoded is the encoding of what it
decodes to. So every byte string has one spelling, and a spelling is all that is accepted. -/
namespace AttachmentFetch.Text.Base64

theorem sextet?_canonical : ∀ code < 256, (sextet? (UInt8.ofNat code)).all
    (fun sextet => sextet < 64 && symbol sextet = UInt8.ofNat code) = true := by
  decide +kernel

theorem value_ok {offset sextet : Nat} {byte : UInt8} (h : value offset byte = .ok sextet) :
    sextet < 64 ∧ symbol sextet = byte := by
  have canonical := sextet?_canonical byte.toNat byte.toNat_lt
  rw [UInt8.ofNat_toNat] at canonical
  unfold value at h
  split at h <;> cases h
  next read =>
    rw [read] at canonical
    simpa using canonical

theorem lastSymbols_ok {offset index pads : Nat} {group : Bytes} {symbols : List Nat}
    (h : lastSymbols offset group index = .ok (symbols, pads)) :
    group = symbols.map symbol ++ List.replicate pads pad ∧ (∀ sextet ∈ symbols, sextet < 64) ∧
      (pads = 0 ∨ 2 ≤ index + symbols.length) := by
  induction group generalizing index symbols with
  | nil =>
    cases h
    exact ⟨rfl, nofun, .inl rfl⟩
  | cons byte rest ih =>
    unfold lastSymbols at h
    split at h
    next isPad =>
      split at h
      · cases h
      next far =>
        split at h <;> cases h
        next padded =>
          have padded : rest = List.replicate rest.length pad :=
            List.eq_replicate_of_mem (by simpa using padded)
          refine ⟨?_, nofun, .inr (Nat.not_lt.1 far)⟩
          rw [Nat.add_comm, List.replicate_succ, ← padded, isPad]
          rfl
    next =>
      cases read : value (offset + index) byte with
      | error fault =>
        rw [read] at h
        cases h
      | ok sextet =>
        obtain ⟨small, same⟩ := value_ok read
        cases later : lastSymbols offset rest (index + 1) with
        | error fault =>
          rw [read, later] at h
          cases h
        | ok last =>
          rw [read, later] at h
          cases h
          obtain ⟨rest_eq, within, padded⟩ := ih later
          refine ⟨?_, List.forall_mem_cons.2 ⟨small, within⟩, padded.imp_right fun far => ?_⟩
          · rw [List.map_cons, same, List.cons_append, ← rest_eq]
          · rw [List.length_cons]
            omega

section Spelled
variable {w x y z : Nat} (hw : w < 64) (hx : x < 64)
include hw hx

theorem encode_three (hy : y < 64) (hz : z < 64) (rest : Bytes) :
    let bits := ((w * 64 + x) * 64 + y) * 64 + z
    encode (UInt8.ofNat (bits / 65536) :: UInt8.ofNat (bits / 256) :: UInt8.ofNat bits :: rest) =
      symbol w :: symbol x :: symbol y :: symbol z :: encode rest := by
  intro bits
  have joined : bits / 65536 % 256 * 65536 + bits / 256 % 256 * 256 + bits % 256 = bits := by
    omega
  have first : bits / 262144 = w := by omega
  have second : bits / 4096 % 64 = x := by omega
  have third : bits / 64 % 64 = y := by omega
  have fourth : bits % 64 = z := by omega
  simp only [encode, UInt8.toNat_ofNat', Nat.reducePow, joined, first, second, third, fourth]

theorem encode_two (hy : y < 64) (spare : ((w * 64 + x) * 64 + y) % 4 = 0) :
    let bits := (w * 64 + x) * 64 + y
    encode [UInt8.ofNat (bits / 1024), UInt8.ofNat (bits / 4)] =
      [symbol w, symbol x, symbol y, pad] := by
  intro bits
  have joined : bits / 1024 % 256 * 1024 + bits / 4 % 256 * 4 = bits := by omega
  have first : bits / 4096 = w := by omega
  have second : bits / 64 % 64 = x := by omega
  have third : bits % 64 = y := by omega
  simp only [encode, UInt8.toNat_ofNat', Nat.reducePow, joined, first, second, third]

theorem encode_one (spare : (w * 64 + x) % 16 = 0) :
    encode [UInt8.ofNat ((w * 64 + x) / 16)] = [symbol w, symbol x, pad, pad] := by
  have joined : (w * 64 + x) / 16 % 256 * 16 = w * 64 + x := by omega
  have first : (w * 64 + x) / 64 = w := by omega
  have second : (w * 64 + x) % 64 = x := by omega
  simp only [encode, UInt8.toNat_ofNat', Nat.reducePow, joined, first, second]

end Spelled

/-- The last group is the encoding of at most three bytes. -/
theorem decodeLast_ok {offset : Nat} {group bytes : Bytes} (short : group.length ≤ 4)
    (h : decodeLast offset group = .ok bytes) : group = encode bytes := by
  unfold decodeLast at h
  cases read : lastSymbols offset group 0 with
  | error fault =>
    rw [read] at h
    cases h
  | ok last =>
    obtain ⟨symbols, pads⟩ := last
    obtain ⟨rfl, within, padded⟩ := lastSymbols_ok read
    rw [List.length_append, List.length_map, List.length_replicate] at short
    rw [read] at h
    simp only [bind, Except.bind, pure, Except.pure] at h
    split at h
    · cases h
    rename_i enough
    split at h
    · cases h
    rename_i whole
    -- Symbols and padding are four in all, or there is nothing.
    match symbols with
    | [] =>
      obtain rfl : pads = 0 := by simpa using padded
      cases h
      rfl
    | [w] => simp at enough
    | [w, x] =>
      obtain rfl : pads = 2 := by
        simp only [List.length_cons, List.length_nil] at short whole
        omega
      dsimp only at h
      split at h
      · cases h
      next spare =>
        cases h
        rw [encode_one (within w (by simp)) (within x (by simp)) (by omega)]
        rfl
    | [w, x, y] =>
      obtain rfl : pads = 1 := by
        simp only [List.length_cons, List.length_nil] at short whole
        omega
      dsimp only at h
      split at h
      · cases h
      next spare =>
        cases h
        rw [encode_two (within w (by simp)) (within x (by simp)) (within y (by simp)) (by omega)]
        rfl
    | [w, x, y, z] =>
      obtain rfl : pads = 0 := by
        simp only [List.length_cons, List.length_nil] at short
        omega
      cases h
      rw [encode_three (within w (by simp)) (within x (by simp)) (within y (by simp))
        (within z (by simp)) []]
      rfl
    | v :: w :: x :: y :: z :: more =>
      simp only [List.length_cons] at short
      omega

theorem decodeGroups_ok {offset : Nat} {text bytes : Bytes}
    (h : decodeGroups offset text = .ok bytes) : text = encode bytes := by
  induction offset, text using decodeGroups.induct generalizing bytes with
  | case1 offset a b c d e rest ih =>
    unfold decodeGroups at h
    simp only [bind, Except.bind, pure, Except.pure] at h
    split at h
    · cases h
    rename_i w first
    split at h
    · cases h
    rename_i x second
    split at h
    · cases h
    rename_i y third
    split at h
    · cases h
    rename_i z fourth
    split at h
    · cases h
    rename_i tail later
    cases h
    obtain ⟨hw, rfl⟩ := value_ok first
    obtain ⟨hx, rfl⟩ := value_ok second
    obtain ⟨hy, rfl⟩ := value_ok third
    obtain ⟨hz, rfl⟩ := value_ok fourth
    rw [encode_three hw hx hy hz, ← ih later]
  | case2 offset group short =>
    have short : group.length ≤ 4 := by
      rcases group with _ | ⟨a, _ | ⟨b, _ | ⟨c, _ | ⟨d, _ | ⟨e, rest⟩⟩⟩⟩⟩
      case cons.cons.cons.cons.cons => exact absurd rfl (short a b c d e rest)
      all_goals simp
    rw [decodeGroups] at h
    · exact decodeLast_ok short h
    · exact fun a b c d e rest same => absurd short (by simp [same])

theorem decode_ok {text bytes : Bytes} (h : decode text = .ok bytes) : text = encode bytes := by
  unfold decode at h
  split at h
  next =>
    split at h
    · cases h
    · exact decodeGroups_ok h
  next none =>
    cases h
    exact List.getLast?_eq_none_iff.1 none

theorem decode_iff {text bytes : Bytes} : decode text = .ok bytes ↔ text = encode bytes :=
  ⟨decode_ok, fun same => same ▸ decode_encode bytes⟩

end AttachmentFetch.Text.Base64
