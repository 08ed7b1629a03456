import MessageExchange.Payload.Id
import Mathlib.Tactic

/-! Which texts pass for generated ids. A token is 32 hexadecimal digits in lower case, in groups of
8-4-4-4-12. The ids that can be generated are the tokens with the version digit and a variant digit in their
places. What passes is every token with the version digit: the place of the variant is read like any
other. -/

namespace MessageExchange.Payload.Id

def hyphenated (d : Fin 32 → Fin 16) : List Char :=
  let cs := (List.finRange 32).map fun i => digit (d i)
  cs.take 8 ++ '-' :: (cs.drop 8).take 4 ++ '-' :: (cs.drop 12).take 4 ++ '-' :: (cs.drop 16).take 4 ++
    '-' :: cs.drop 20

/-- The token of 128 bits, given as digits in base 16. -/
def token (d : Fin 32 → Fin 16) : String := String.ofList (hyphenated d)

def hyphens : List Nat := [8, 13, 18, 23]

def place (i : Fin 32) : Nat :=
  if i < 8 then i else if i < 12 then i + 1 else if i < 16 then i + 2 else if i < 20 then i + 3 else i + 4

theorem hyphen_or_digit : ∀ p < 36, p ∈ hyphens ∨ ∃ i, place i = p := by decide

theorem place_injective : Function.Injective place := by decide

theorem hyphens_lt : ∀ p ∈ hyphens, p < 36 := by decide

theorem place_lt : ∀ i, place i < 36 ∧ place i ∉ hyphens := by decide

/-! Digits. -/

theorem digit_injective : Function.Injective digit := by decide

theorem isDigit_iff {c : Char} : isDigit c = true ↔ ∃ n, digit n = c := by
  constructor
  · intro h
    simp only [isDigit, Bool.or_eq_true, Bool.and_eq_true, decide_eq_true_eq] at h
    rcases h with ⟨hlo, hhi⟩ | ⟨hlo, hhi⟩
    · refine ⟨⟨c.toNat - 48, by omega⟩, ?_⟩
      rw [digit, if_pos (by simp only; omega), Nat.add_sub_cancel' hlo, Char.ofNat_toNat]
    · refine ⟨⟨c.toNat - 87, by omega⟩, ?_⟩
      rw [digit, if_neg (by simp only; omega), Nat.add_sub_cancel' (by omega), Char.ofNat_toNat]
  · rintro ⟨n, rfl⟩
    revert n
    decide

theorem variantDigit_iff {n : Fin 16} : (∃ v, digit n = variantDigit v) ↔ 8 ≤ n ∧ n < 12 := by
  revert n
  decide

/-! Places. -/

theorem getElem?_hyphenated (d : Fin 32 → Fin 16) (i : Fin 32) :
    (hyphenated d)[place i]? = some (digit (d i)) := by
  fin_cases i <;> rfl

theorem hyphen_hyphenated (d : Fin 32 → Fin 16) :
    ∀ p ∈ hyphens, (hyphenated d)[p]? = some '-' := by
  simp only [hyphens, List.forall_mem_cons]
  exact ⟨rfl, rfl, rfl, rfl, nofun⟩

theorem eq_hyphenated_iff {cs : List Char} {d : Fin 32 → Fin 16} :
    cs = hyphenated d ↔
      cs.length = 36 ∧ (∀ p ∈ hyphens, cs[p]? = some '-') ∧ ∀ i, cs[place i]? = some (digit (d i)) := by
  constructor
  · rintro rfl
    exact ⟨rfl, hyphen_hyphenated d, getElem?_hyphenated d⟩
  · rintro ⟨hlen, hhyphens, hdigits⟩
    have hlen' : (hyphenated d).length = 36 := rfl
    apply List.ext_getElem?
    intro p
    by_cases hp : p < 36
    · obtain hmem | ⟨i, rfl⟩ := hyphen_or_digit p hp
      · rw [hhyphens p hmem, hyphen_hyphenated d p hmem]
      · rw [hdigits, getElem?_hyphenated]
    · rw [List.getElem?_eq_none (by omega), List.getElem?_eq_none (by omega)]

theorem hyphenated_injective : Function.Injective hyphenated := by
  intro d d' h
  funext i
  have hi := getElem?_hyphenated d' i
  rw [← h, getElem?_hyphenated] at hi
  exact digit_injective (Option.some.inj hi)

/-! What is read. -/

theorem fits_iff {p : Nat} {c : Char} :
    fits p c = true ↔
      if p ∈ hyphens then c = '-' else if p = 14 then c = '4' else isDigit c = true := by
  simp only [fits, hyphens, Bool.or_eq_true, beq_iff_eq, List.mem_cons, List.not_mem_nil, or_false,
    or_assoc]
  split_ifs <;> simp

theorem isGenerated_iff {s : String} :
    isGenerated s = true ↔ s.toList.length = 36 ∧ ∀ p c, s.toList[p]? = some c → fits p c = true := by
  simp only [isGenerated, Bool.and_eq_true, beq_iff_eq, List.all_eq_true, Prod.forall,
    List.mem_zipIdx_iff_getElem?]
  exact and_congr_right fun _ => forall_comm

theorem token_injective : Function.Injective token := fun _ _ h =>
  hyphenated_injective (String.ofList_injective h)

theorem eq_token_iff {s : String} {d : Fin 32 → Fin 16} : s = token d ↔ s.toList = hyphenated d := by
  rw [token, ← String.toList_inj, String.toList_ofList]

theorem fits_hyphenated {d : Fin 32 → Fin 16} (hversion : d 12 = 4) {p : Nat} {c : Char}
    (hc : (hyphenated d)[p]? = some c) : fits p c = true := by
  rw [fits_iff]
  obtain hmem | ⟨i, rfl⟩ := hyphen_or_digit p (List.getElem?_eq_some_iff.1 hc).1
  · rw [hyphen_hyphenated d p hmem] at hc
    rw [if_pos hmem, Option.some.inj hc]
  · rw [getElem?_hyphenated] at hc
    rw [if_neg (place_lt i).2, ← Option.some.inj hc]
    split_ifs with hplace
    · obtain rfl : i = 12 := place_injective hplace
      rw [hversion]
      rfl
    · exact isDigit_iff.2 ⟨_, rfl⟩

/-- Where every place is filled as it should be, the digits can be read off. -/
theorem exists_digits_of_fits {cs : List Char} (hlen : cs.length = 36)
    (hfits : ∀ p c, cs[p]? = some c → fits p c = true) : ∃ d, cs = hyphenated d ∧ d 12 = 4 := by
  have hget : ∀ p < 36, ∃ c, cs[p]? = some c ∧ fits p c = true := by
    intro p hp
    have hc := List.getElem?_eq_getElem (hlen ▸ hp : p < cs.length)
    exact ⟨_, hc, hfits p _ hc⟩
  have hdigits : ∀ i, ∃ n, cs[place i]? = some (digit n) := by
    intro i
    obtain ⟨hlt, hplace⟩ := place_lt i
    obtain ⟨c, hc, hfit⟩ := hget _ hlt
    rw [fits_iff, if_neg hplace] at hfit
    split_ifs at hfit
    · exact ⟨4, hc.trans (congrArg some hfit)⟩
    · obtain ⟨n, rfl⟩ := isDigit_iff.1 hfit
      exact ⟨n, hc⟩
  choose d hd using hdigits
  have hversion : digit (d 12) = digit 4 := fits_iff.1 (hfits _ _ (hd 12))
  refine ⟨d, eq_hyphenated_iff.2 ⟨hlen, fun p hp => ?_, hd⟩, digit_injective hversion⟩
  obtain ⟨c, hc, hfit⟩ := hget p (hyphens_lt p hp)
  rw [fits_iff, if_pos hp] at hfit
  exact hc.trans (congrArg some hfit)

/-- What passes is the tokens with the version digit in its place. -/
theorem isGenerated_iff_token {s : String} :
    isGenerated s = true ↔ ∃ d, s = token d ∧ d 12 = 4 := by
  rw [isGenerated_iff]
  constructor
  · rintro ⟨hlen, hfits⟩
    obtain ⟨d, hd, hversion⟩ := exists_digits_of_fits hlen hfits
    exact ⟨d, eq_token_iff.2 hd, hversion⟩
  · rintro ⟨d, hs, hversion⟩
    rw [eq_token_iff.1 hs]
    exact ⟨rfl, fun p c => fits_hyphenated hversion⟩

/-! What is generated. -/

def free (i : Fin 30) : Fin 32 :=
  if i < 12 then ⟨i, by omega⟩ else if i < 15 then ⟨i + 1, by omega⟩ else ⟨i + 2, by omega⟩

theorem free_or_fixed : ∀ i, i = 12 ∨ i = 16 ∨ ∃ j, free j = i := by decide

def Seed.digit32 (s : Seed) (i : Fin 32) : Fin 16 :=
  if h : i < 12 then s.digits ⟨i, by omega⟩ else if i = 12 then ⟨4, by decide⟩
  else if h : i < 16 then s.digits ⟨i - 1, by omega⟩
  else if i = 16 then (s.variant.natAdd 8).castLE (by decide) else s.digits ⟨i - 2, by omega⟩

theorem generate_eq_token (s : Seed) : generate s = token s.digit32 := rfl

theorem Seed.digit32_free (s : Seed) (i : Fin 30) : s.digit32 (free i) = s.digits i := by
  fin_cases i <;> rfl

theorem exists_seed_iff {d : Fin 32 → Fin 16} :
    (∃ s : Seed, s.digit32 = d) ↔ d 12 = 4 ∧ 8 ≤ d 16 ∧ d 16 < 12 := by
  constructor
  · rintro ⟨s, rfl⟩
    have hvariant : (s.digit32 16).val = 8 + s.variant := rfl
    rw [Fin.le_def, Fin.lt_def, hvariant]
    exact ⟨rfl, Nat.le_add_right 8 _, Nat.add_lt_add_left s.variant.isLt 8⟩
  · rintro ⟨hversion, hlo, hhi⟩
    refine ⟨⟨d ∘ free, ⟨d 16 - 8, by omega⟩⟩, funext fun i => ?_⟩
    obtain rfl | rfl | ⟨j, rfl⟩ := free_or_fixed i
    · exact hversion.symm
    · exact Fin.ext (Nat.add_sub_cancel' hlo)
    · exact Seed.digit32_free _ j

theorem exists_generate_iff {s : String} :
    (∃ seed, generate seed = s) ↔ ∃ d, s = token d ∧ d 12 = 4 ∧ 8 ≤ d 16 ∧ d 16 < 12 := by
  simp only [← exists_seed_iff, generate_eq_token]
  constructor
  · rintro ⟨seed, rfl⟩
    exact ⟨seed.digit32, rfl, seed, rfl⟩
  · rintro ⟨_, rfl, seed, rfl⟩
    exact ⟨seed, rfl⟩

theorem variant_token (d : Fin 32 → Fin 16) :
    (∃ v, (token d).toList[19]? = some (variantDigit v)) ↔ 8 ≤ d 16 ∧ d 16 < 12 := by
  have hplace : (token d).toList[19]? = some (digit (d 16)) := by
    rw [token, String.toList_ofList]
    exact getElem?_hyphenated d 16
  rw [← variantDigit_iff, hplace]
  simp only [Option.some.injEq]

/-! The check in stages: the size, the case, and what a reader of tokens makes of the text. -/

/-- Of the texts of 36 bytes, `parse` reads those that are tokens but for the case of their letters. -/
def Reads (parse : String → Option (Fin 32 → Fin 16)) : Prop :=
  ∀ s d, s.utf8ByteSize = 36 → (parse s = some d ↔ s.toLower = token d)

theorem exists_reads : ∃ parse, Reads parse := by
  classical
  refine ⟨fun s => if h : ∃ d, s.toLower = token d then some h.choose else none, fun s d _ => ?_⟩
  dsimp only
  split_ifs with h
  · rw [Option.some.injEq]
    constructor
    · rintro rfl
      exact h.choose_spec
    · exact fun hd => token_injective (h.choose_spec.symm.trans hd)
  · simp only [false_iff]
    exact fun hd => h ⟨d, hd⟩

theorem utf8ByteSize_of_ascii {cs : List Char} (h : ∀ c ∈ cs, c.utf8Size = 1) :
    (String.ofList cs).utf8ByteSize = cs.length := by
  induction cs with
  | nil => rfl
  | cons c cs ih =>
    rw [List.forall_mem_cons] at h
    rw [String.ofList_cons, String.utf8ByteSize_append, String.utf8ByteSize_singleton, h.1, ih h.2,
      List.length_cons, Nat.add_comm]

/-- A token has one byte for each character, and no letter in upper case. -/
theorem plain_hyphenated (d : Fin 32 → Fin 16) :
    ∀ c ∈ hyphenated d, c.utf8Size = 1 ∧ c.toLower = c := by
  intro c hc
  obtain ⟨p, hp⟩ := List.mem_iff_getElem?.1 hc
  have hlt : p < 36 := (List.getElem?_eq_some_iff.1 hp).1
  obtain hmem | ⟨i, rfl⟩ := hyphen_or_digit p hlt
  · rw [hyphen_hyphenated d p hmem] at hp
    rw [← Option.some.inj hp]
    decide
  · rw [getElem?_hyphenated] at hp
    rw [← Option.some.inj hp]
    generalize d i = n
    revert n
    decide

theorem utf8ByteSize_token (d : Fin 32 → Fin 16) : (token d).utf8ByteSize = 36 :=
  utf8ByteSize_of_ascii fun c hc => (plain_hyphenated d c hc).1

theorem toLower_token (d : Fin 32 → Fin 16) : (token d).toLower = token d := by
  have hmap : (token d).toLower = (token d).map Char.toLower := rfl
  rw [hmap, ← String.toList_inj, String.toList_map, token, String.toList_ofList]
  exact (List.map_congr_left fun c hc => (plain_hyphenated d c hc).2).trans (List.map_id _)

theorem isGenerated_eq_staged {parse : String → Option (Fin 32 → Fin 16)} (h : Reads parse)
    (s : String) :
    isGenerated s = (s.utf8ByteSize == 36 && s == s.toLower && (parse s).any fun d => d 12 == 4) := by
  rw [Bool.eq_iff_iff, isGenerated_iff_token]
  simp only [Bool.and_eq_true, beq_iff_eq, Option.any_eq_true]
  constructor
  · rintro ⟨d, rfl, hversion⟩
    have hsize := utf8ByteSize_token d
    have hlower := toLower_token d
    exact ⟨⟨hsize, hlower.symm⟩, d, (h _ d hsize).2 hlower, hversion⟩
  · rintro ⟨⟨hsize, hlower⟩, d, hd, hversion⟩
    exact ⟨d, hlower.trans ((h s d hsize).1 hd), hversion⟩

/-- The ids that can be generated are those texts that pass which have a variant digit in its place. Both
are tokens with the version digit; in a text that merely passes, any digit may stand for the variant. -/
theorem generated_iff (s : String) :
    ((∃ seed, generate seed = s) ↔
        isGenerated s = true ∧ ∃ v, s.toList[19]? = some (variantDigit v)) ∧
      ((∃ seed, generate seed = s) ↔ ∃ d, s = token d ∧ d 12 = 4 ∧ 8 ≤ d 16 ∧ d 16 < 12) ∧
      (isGenerated s = true ↔ ∃ d, s = token d ∧ d 12 = 4) ∧
      ∀ parse, Reads parse → isGenerated s =
        (s.utf8ByteSize == 36 && s == s.toLower && (parse s).any fun d => d 12 == 4) := by
  refine ⟨?_, exists_generate_iff, isGenerated_iff_token, fun parse h => isGenerated_eq_staged h s⟩
  rw [exists_generate_iff, isGenerated_iff_token]
  constructor
  · rintro ⟨d, rfl, hversion, hvariant⟩
    exact ⟨⟨d, rfl, hversion⟩, (variant_token d).2 hvariant⟩
  · rintro ⟨⟨d, rfl, hversion⟩, hvariant⟩
    exact ⟨d, rfl, hversion, (variant_token d).1 hvariant⟩

/-- A token with the version digit that passes and is never generated: its variant digit is no variant. -/
theorem passes_ungenerated :
    isGenerated "00000000-0000-4000-0000-000000000000" = true ∧
      ∀ seed, generate seed ≠ "00000000-0000-4000-0000-000000000000" := by
  have htoken : "00000000-0000-4000-0000-000000000000" = token fun i => if i = 12 then 4 else 0 := by
    rfl
  refine ⟨isGenerated_iff_token.2 ⟨_, htoken, rfl⟩, fun seed h => ?_⟩
  obtain ⟨d, hd, -, hvariant⟩ := exists_generate_iff.1 ⟨seed, h⟩
  obtain ⟨v, hv⟩ := (variant_token d).2 hvariant
  rw [← hd] at hv
  have hzero : some '0' = some (variantDigit v) := hv
  revert v
  decide

end MessageExchange.Payload.Id
