import MessageExchange.Base64
import Mathlib.Tactic

/-! Every list of bytes has one base64 text. `encode` writes it, and `decode` reads that text and no
other: there is no second form with less padding, with stray bits or with symbols in between. -/

namespace MessageExchange

theorem ok_bind {ε α β : Type} (a : α) (f : α → Except ε β) : (Except.ok a >>= f) = f a := rfl

theorem bind_eq_ok_iff {ε α β : Type} {x : Except ε α} {f : α → Except ε β} {b : β} :
    (x >>= f) = .ok b ↔ ∃ a, x = .ok a ∧ f a = .ok b := by
  cases x with
  | error e => simp [bind, Except.bind]
  | ok a => simp [bind, Except.bind]

namespace Base64

def symbol (n : Nat) : UInt8 :=
  UInt8.ofNat (if n < 26 then n + 65 else if n < 52 then n + 71 else if n < 62 then n - 4
    else if n = 62 then 43 else 47)

def spread (x y z : UInt8) : List Nat :=
  let n := (x.toNat * 256 + y.toNat) * 256 + z.toNat
  [n / 262144, n / 4096 % 64, n / 64 % 64, n % 64]

/-- The text of some bytes. Padding stands for symbols that no byte is left for. -/
def encode : List UInt8 → List UInt8
  | x :: y :: z :: rest => (spread x y z).map symbol ++ encode rest
  | [x, y] => ((spread x y 0).take 3).map symbol ++ [pad]
  | [x] => ((spread x 0 0).take 2).map symbol ++ [pad, pad]
  | [] => []

theorem value?_eq_some_iff {b : UInt8} {n : Nat} : value? b = some n ↔ n < 64 ∧ b = symbol n := by
  have hb := b.toNat_lt
  have hsymbol : b = symbol n ↔ b.toNat = (symbol n).toNat := UInt8.toNat_inj.symm
  rw [hsymbol]
  unfold value? symbol
  rw [UInt8.toNat_ofNat']
  dsimp only
  split_ifs <;> simp <;> omega

theorem sextet_eq_ok_iff {b : UInt8} {offset n : Nat} :
    sextet b offset = .ok n ↔ n < 64 ∧ b = symbol n := by
  rw [← value?_eq_some_iff]
  unfold sextet
  cases value? b <;> simp

theorem symbol_ne_pad {n : Nat} (hn : n < 64) : symbol n ≠ pad := by
  intro h
  have hvalue := value?_eq_some_iff.2 ⟨hn, h.symm⟩
  cases hvalue

/-- The symbols of a whole group and its bytes are two views of the same 24 bits. -/
theorem spread_eq_iff {x y z : UInt8} {a b c d : Nat} :
    spread x y z = [a, b, c, d] ↔
      (a < 64 ∧ b < 64 ∧ c < 64 ∧ d < 64) ∧ group a b c d = [x, y, z] := by
  have hx := x.toNat_lt
  have hy := y.toNat_lt
  have hz := z.toNat_lt
  unfold spread group
  simp only [List.cons.injEq, and_true, ← UInt8.toNat_inj, UInt8.toNat_ofNat']
  omega

theorem spread_two_iff {x y : UInt8} {a b c : Nat} :
    (spread x y 0).take 3 = [a, b, c] ↔
      (a < 64 ∧ b < 64 ∧ c < 64) ∧ c % 4 = 0 ∧ (group a b c 0).take 2 = [x, y] := by
  have hx := x.toNat_lt
  have hy := y.toNat_lt
  have hzero : (0 : UInt8).toNat = 0 := rfl
  unfold spread group
  simp only [List.take_succ_cons, List.take_zero, List.cons.injEq, and_true, ← UInt8.toNat_inj,
    UInt8.toNat_ofNat', hzero]
  omega

theorem spread_one_iff {x : UInt8} {a b : Nat} :
    (spread x 0 0).take 2 = [a, b] ↔
      (a < 64 ∧ b < 64) ∧ b % 16 = 0 ∧ (group a b 0 0).take 1 = [x] := by
  have hx := x.toNat_lt
  have hzero : (0 : UInt8).toNat = 0 := rfl
  unfold spread group
  simp only [List.take_succ_cons, List.take_zero, List.cons.injEq, and_true, ← UInt8.toNat_inj,
    UInt8.toNat_ofNat', hzero]
  omega

/-- Symbols for these values, then so much padding. -/
def Padded (bs : List UInt8) (vs : List Nat) (n : Nat) : Prop :=
  bs = vs.map symbol ++ List.replicate n pad ∧ ∀ v ∈ vs, v < 64

theorem padded_nil_iff {vs : List Nat} {n : Nat} : Padded [] vs n ↔ vs = [] ∧ n = 0 := by
  unfold Padded
  constructor
  · rintro ⟨h, -⟩
    simpa using h
  · rintro ⟨rfl, rfl⟩
    exact ⟨rfl, nofun⟩

theorem padded_pad_iff {bs : List UInt8} {vs : List Nat} {n : Nat} :
    Padded (pad :: bs) vs n ↔ vs = [] ∧ ∃ m, n = m + 1 ∧ Padded bs [] m := by
  constructor
  · rintro ⟨h, hlt⟩
    cases vs with
    | nil =>
      cases n with
      | zero => cases h
      | succ m => exact ⟨rfl, m, rfl, (List.cons.inj h).2, nofun⟩
    | cons v us => exact absurd (List.cons.inj h).1.symm (symbol_ne_pad (hlt v List.mem_cons_self))
  · rintro ⟨rfl, m, rfl, h, hlt⟩
    exact ⟨congrArg (pad :: ·) h, hlt⟩

theorem padded_cons_iff {b : UInt8} {bs : List UInt8} {vs : List Nat} {n : Nat} (hb : b ≠ pad) :
    Padded (b :: bs) vs n ↔ ∃ v us, vs = v :: us ∧ (v < 64 ∧ b = symbol v) ∧ Padded bs us n := by
  constructor
  · rintro ⟨h, hlt⟩
    cases vs with
    | nil =>
      cases n with
      | zero => cases h
      | succ m => exact absurd (List.cons.inj h).1 hb
    | cons v us =>
      obtain ⟨hv, hus⟩ := List.forall_mem_cons.1 hlt
      exact ⟨v, us, rfl, ⟨hv, (List.cons.inj h).1⟩, (List.cons.inj h).2, hus⟩
  · rintro ⟨v, us, rfl, ⟨hv, rfl⟩, h, hlt⟩
    exact ⟨congrArg (symbol v :: ·) h, List.forall_mem_cons.2 ⟨hv, hlt⟩⟩

/-- The last group, read as a whole. Padding stands behind two values at least, and nothing but padding
behind padding. -/
theorem lastSymbols_eq_ok_iff {bs : List UInt8} {base i : Nat} {padded : Option Nat} {vs : List Nat}
    {n : Nat} :
    lastSymbols bs base i padded = .ok (vs, n) ↔
      Padded bs vs n ∧ (n ≠ 0 → 2 ≤ i + vs.length) ∧ (padded.isSome → vs = []) := by
  induction bs generalizing i padded vs n with
  | nil =>
    rw [padded_nil_iff]
    unfold lastSymbols
    constructor
    · intro h
      cases h
      exact ⟨⟨rfl, rfl⟩, nofun, fun _ => rfl⟩
    · rintro ⟨⟨rfl, rfl⟩, -⟩
      rfl
  | cons b rest ih =>
    unfold lastSymbols
    by_cases hb : b = pad
    · subst hb
      rw [if_pos rfl, padded_pad_iff]
      split_ifs with hi
      · constructor
        · intro h
          cases h
        · rintro ⟨⟨rfl, m, rfl, -⟩, hbehind, -⟩
          have htwo := hbehind (Nat.succ_ne_zero m)
          simp only [List.length_nil] at htwo
          omega
      · rw [bind_eq_ok_iff]
        constructor
        · rintro ⟨⟨us, m⟩, hrest, h⟩
          cases h
          obtain ⟨hpadded, -, hnone⟩ := ih.1 hrest
          obtain rfl := hnone rfl
          exact ⟨⟨rfl, m, rfl, hpadded⟩, fun _ => by simp only [List.length_nil]; omega, fun _ => rfl⟩
        · rintro ⟨⟨rfl, m, rfl, hpadded⟩, -, -⟩
          refine ⟨([], m), ih.2 ⟨hpadded, fun _ => ?_, fun _ => rfl⟩, rfl⟩
          simp only [List.length_nil]
          omega
    · rw [if_neg hb, padded_cons_iff hb]
      cases padded with
      | some j =>
        constructor
        · intro h
          cases h
        · rintro ⟨⟨v, us, rfl, -⟩, -, hnone⟩
          cases hnone rfl
      | none =>
        simp only [bind_eq_ok_iff]
        constructor
        · rintro ⟨v, hv, ⟨us, m⟩, hrest, h⟩
          cases h
          obtain ⟨hpadded, hbehind, -⟩ := ih.1 hrest
          refine ⟨⟨v, us, rfl, sextet_eq_ok_iff.1 hv, hpadded⟩, fun hm => ?_, nofun⟩
          have htwo : 2 ≤ i + 1 + us.length := hbehind hm
          show 2 ≤ i + (us.length + 1)
          omega
        · rintro ⟨⟨v, us, rfl, hv, hpadded⟩, hbehind, -⟩
          refine ⟨v, sextet_eq_ok_iff.2 hv, (us, n), ih.2 ⟨hpadded, fun hn => ?_, nofun⟩, rfl⟩
          have htwo := hbehind hn
          rw [List.length_cons] at htwo
          omega

theorem encode_two {a b : Nat} (ha : a < 64) (hb : b < 64) (hunused : b % 16 = 0) :
    encode ((group a b 0 0).take 1) = [symbol a, symbol b, pad, pad] := by
  obtain ⟨x, hx⟩ : ∃ x, (group a b 0 0).take 1 = [x] := ⟨_, rfl⟩
  rw [hx, encode, spread_one_iff.2 ⟨⟨ha, hb⟩, hunused, hx⟩]
  rfl

theorem encode_three {a b c : Nat} (ha : a < 64) (hb : b < 64) (hc : c < 64) (hunused : c % 4 = 0) :
    encode ((group a b c 0).take 2) = [symbol a, symbol b, symbol c, pad] := by
  obtain ⟨x, y, hxy⟩ : ∃ x y, (group a b c 0).take 2 = [x, y] := ⟨_, _, rfl⟩
  rw [hxy, encode, spread_two_iff.2 ⟨⟨ha, hb, hc⟩, hunused, hxy⟩]
  rfl

theorem encode_group {a b c d : Nat} (ha : a < 64) (hb : b < 64) (hc : c < 64) (hd : d < 64)
    (der : List UInt8) :
    encode (group a b c d ++ der) = symbol a :: symbol b :: symbol c :: symbol d :: encode der := by
  obtain ⟨x, y, z, hxyz⟩ : ∃ x y z, group a b c d = [x, y, z] := ⟨_, _, _, rfl⟩
  rw [hxyz]
  change (spread x y z).map symbol ++ encode der = _
  rw [spread_eq_iff.2 ⟨⟨ha, hb, hc, hd⟩, hxyz⟩]
  rfl

theorem encode_of_lastGroup {bs der : List UInt8} {base : Nat} (hlen : bs.length ≤ 4)
    (h : lastGroup bs base = .ok der) : bs = encode der := by
  unfold lastGroup at h
  obtain ⟨⟨vs, n⟩, hread, h⟩ := bind_eq_ok_iff.1 h
  obtain ⟨⟨hbs, hlt⟩, -, -⟩ := lastSymbols_eq_ok_iff.1 hread
  have hcount : bs.length = vs.length + n := by rw [hbs]; simp
  dsimp only at h
  split_ifs at h with hempty hfew hwhole
  · cases h
    exact hempty
  · have hfour : vs.length + n = 4 := by omega
    -- Two, three or four values are left of a whole group.
    rcases vs with _ | ⟨a, _ | ⟨b, _ | ⟨c, _ | ⟨d, rest⟩⟩⟩⟩
    · exact absurd hfew (by simp)
    · exact absurd hfew (by simp)
    · dsimp only at h
      split_ifs at h with hunused
      cases h
      obtain rfl : n = 2 := by simp only [List.length_cons, List.length_nil] at hfour; omega
      rw [encode_two (hlt a (by simp)) (hlt b (by simp)) hunused, hbs]
      rfl
    · dsimp only at h
      split_ifs at h with hunused
      cases h
      obtain rfl : n = 1 := by simp only [List.length_cons, List.length_nil] at hfour; omega
      rw [encode_three (hlt a (by simp)) (hlt b (by simp)) (hlt c (by simp)) hunused, hbs]
      rfl
    · obtain ⟨rfl, rfl⟩ : rest = [] ∧ n = 0 := by
        simp only [List.length_cons] at hfour
        exact ⟨List.length_eq_zero_iff.1 (by omega), by omega⟩
      cases h
      have hgroup := encode_group (hlt a (by simp)) (hlt b (by simp)) (hlt c (by simp))
        (hlt d (by simp)) []
      rw [List.append_nil] at hgroup
      rw [hgroup, hbs]
      rfl

theorem four_le_length_encode {der : List UInt8} (hne : der ≠ []) : 4 ≤ (encode der).length := by
  rcases der with _ | ⟨x, _ | ⟨y, _ | ⟨z, rest⟩⟩⟩
  · exact absurd rfl hne
  · rfl
  · rfl
  · simp only [encode, List.length_append, List.length_map, spread, List.length_cons, List.length_nil]
    omega

theorem lastGroup_encode {der : List UInt8} (base : Nat) (hlen : (encode der).length ≤ 4) :
    lastGroup (encode der) base = .ok der := by
  have hread : ∀ vs n, Padded (encode der) vs n → 2 ≤ vs.length →
      lastSymbols (encode der) base 0 none = .ok (vs, n) := fun _ _ hpadded htwo =>
    lastSymbols_eq_ok_iff.2 ⟨hpadded, fun _ => by omega, nofun⟩
  unfold lastGroup
  rcases der with _ | ⟨x, _ | ⟨y, _ | ⟨z, _ | ⟨w, rest⟩⟩⟩⟩
  · rfl
  · obtain ⟨a, b, hs⟩ : ∃ a b, (spread x 0 0).take 2 = [a, b] := ⟨_, _, rfl⟩
    obtain ⟨⟨ha, hb⟩, hunused, hgroup⟩ := spread_one_iff.1 hs
    rw [hread [a, b] 2 ⟨by rw [encode, hs]; rfl, by simp [ha, hb]⟩ le_rfl]
    simp [bind, Except.bind, encode, hunused, hgroup, pure, Except.pure]
  · obtain ⟨a, b, c, hs⟩ : ∃ a b c, (spread x y 0).take 3 = [a, b, c] := ⟨_, _, _, rfl⟩
    obtain ⟨⟨ha, hb, hc⟩, hunused, hgroup⟩ := spread_two_iff.1 hs
    rw [hread [a, b, c] 1 ⟨by rw [encode, hs]; rfl, by simp [ha, hb, hc]⟩ (by simp)]
    simp [bind, Except.bind, encode, hunused, hgroup, pure, Except.pure]
  · obtain ⟨a, b, c, d, hs⟩ : ∃ a b c d, spread x y z = [a, b, c, d] := ⟨_, _, _, _, rfl⟩
    obtain ⟨⟨ha, hb, hc, hd⟩, hgroup⟩ := spread_eq_iff.1 hs
    rw [hread [a, b, c, d] 0 ⟨by rw [encode, hs]; rfl, by simp [ha, hb, hc, hd]⟩
      (by simp)]
    simp [bind, Except.bind, encode, hs, hgroup, pure, Except.pure]
  · have hrest := four_le_length_encode (List.cons_ne_nil w rest)
    simp only [encode, spread, List.length_append, List.length_map, List.length_cons,
      List.length_nil] at hlen
    omega

theorem groups_eq_ok_iff {bs der : List UInt8} {base : Nat} :
    groups bs base = .ok der ↔ bs = encode der := by
  induction bs, base using groups.induct generalizing der with
  | case1 a b c d e rest base ih =>
    rw [groups]
    simp only [bind_eq_ok_iff, sextet_eq_ok_iff]
    constructor
    · rintro ⟨va, ⟨ha, rfl⟩, vb, ⟨hb, rfl⟩, vc, ⟨hc, rfl⟩, vd, ⟨hd, rfl⟩, der', hrest, h⟩
      cases h
      rw [encode_group ha hb hc hd, ← ih.1 hrest]
    · intro h
      rcases der with _ | ⟨x, _ | ⟨y, _ | ⟨z, der'⟩⟩⟩
      · cases h
      · cases h
      · cases h
      · obtain ⟨va, vb, vc, vd, hs⟩ : ∃ a b c d, spread x y z = [a, b, c, d] := ⟨_, _, _, _, rfl⟩
        obtain ⟨⟨ha, hb, hc, hd⟩, hgroup⟩ := spread_eq_iff.1 hs
        rw [encode, hs] at h
        simp only [List.map_cons, List.map_nil, List.cons_append, List.nil_append,
          List.cons.injEq] at h
        obtain ⟨rfl, rfl, rfl, rfl, hrest⟩ := h
        refine ⟨va, ⟨ha, rfl⟩, vb, ⟨hb, rfl⟩, vc, ⟨hc, rfl⟩, vd, ⟨hd, rfl⟩, der', ih.2 hrest, ?_⟩
        rw [hgroup]
        rfl
  | case2 bs base hshort =>
    have hlen : bs.length ≤ 4 := by
      rcases bs with _ | ⟨a, _ | ⟨b, _ | ⟨c, _ | ⟨d, _ | ⟨e, rest⟩⟩⟩⟩⟩
      · simp
      · simp
      · simp
      · simp
      · simp
      · exact (hshort a b c d e rest rfl).elim
    have hlast : groups bs base = lastGroup bs base := groups.eq_2 bs base hshort
    rw [hlast]
    constructor
    · exact encode_of_lastGroup hlen
    · rintro rfl
      exact lastGroup_encode base hlen

theorem length_encode_mod (der : List UInt8) : (encode der).length % 4 = 0 := by
  induction der using encode.induct with
  | case1 x y z rest ih =>
    rw [encode, List.length_append, List.length_map, spread]
    simp only [List.length_cons, List.length_nil]
    omega
  | case2 x y => simp [encode, spread]
  | case3 x => simp [encode, spread]
  | case4 => rfl

/-- The text of some bytes is read as these bytes, and no other text is. -/
theorem decode_eq_ok_iff {bs der : List UInt8} : decode bs = .ok der ↔ bs = encode der := by
  have hgroups : groups bs 0 = .ok der ↔ bs = encode der := groups_eq_ok_iff
  rw [← hgroups]
  unfold decode
  split
  next b hb =>
    split_ifs with hstray
    · constructor
      · intro h
        cases h
      · intro h
        have hmod := length_encode_mod der
        rw [← hgroups.1 h] at hmod
        omega
    · rfl
  next hnone =>
    rw [List.getLast?_eq_none_iff] at hnone
    rw [hnone]
    rfl

-- "TWE=" is "Ma".
example : decode [84, 87, 69, 61] = .ok [77, 97] := decode_eq_ok_iff.2 (by decide)

end Base64

end MessageExchange
