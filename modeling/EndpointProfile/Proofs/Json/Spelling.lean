import EndpointProfile.Json.Reader
import EndpointProfile.Proofs.Text.Cuts

/-! How a text may be spelled between the quotes of a JSON string, and that strings are read just as
they are spelled. -/
namespace EndpointProfile.Json
open Text (Only)

/-- What stands between quotes, and the text that it spells. Four digits spell a code point of their
own, or one half of a pair. -/
inductive Spells : Text → Text → Prop
  | nil : Spells [] []
  | plain {c : Char} {body t : Text} : c ≠ '"' → c ≠ '\\' → ¬ c.toNat < 0x20 →
      Spells body t → Spells (c :: body) (c :: t)
  | escape {e c : Char} {body t : Text} : escaped? e = some c →
      Spells body t → Spells ('\\' :: e :: body) (c :: t)
  | digits {digits body t : Text} {n : Nat} : hexValue? digits = some n →
      isTrail n = false → isLead n = false →
      Spells body t → Spells ('\\' :: 'u' :: (digits ++ body)) (Char.ofNat n :: t)
  | pair {lead trail body t : Text} {m n : Nat} : hexValue? lead = some m → isLead m = true →
      hexValue? trail = some n → isTrail n = true → Spells body t →
      Spells ('\\' :: 'u' :: (lead ++ '\\' :: 'u' :: (trail ++ body)))
        (Char.ofNat (0x10000 + (m - 0xD800) * 0x400 + (n - 0xDC00)) :: t)

theorem utf8Size_of_digit? {base : Nat} {c : Char} {v : Nat}
    (h : Text.digits?.digit? base c = some v) : c.utf8Size = 1 := by
  have ascii {last : Char} (le : c ≤ last) (low : last.val ≤ 127) : c.utf8Size = 1 :=
    Char.utf8Size_eq_one_iff.mpr (UInt32.le_trans le low)
  unfold Text.digits?.digit? at h
  simp only [Bool.and_eq_true, decide_eq_true_eq] at h
  split at h
  · next range => exact ascii range.2 (by decide)
  split at h
  · next range => exact ascii range.2 (by decide)
  split at h
  · next range => exact ascii range.2 (by decide)
  · simp at h

/-- An escape has four digits, of a byte each. -/
theorem exists_four_of_hexValue? {digits : Text} {n : Nat} (h : hexValue? digits = some n) :
    ∃ a b c d, digits = [a, b, c, d] ∧ ∀ x ∈ digits, x.utf8Size = 1 := by
  unfold hexValue? at h
  split at h
  · next four =>
      obtain ⟨a, b, c, d, rfl⟩ := List.length_eq_four.mp four
      refine ⟨a, b, c, d, rfl, ?_⟩
      simp only [Text.digits?, List.foldl_cons, List.foldl_nil, Option.map_eq_some_iff,
        Option.bind_eq_some_iff] at h
      obtain ⟨_, ⟨_, ⟨_, ⟨_, _, ⟨_, ha, -⟩⟩, ⟨_, hb, -⟩⟩, ⟨_, hc, -⟩⟩, ⟨_, hd, -⟩⟩ := h
      simp [utf8Size_of_digit? ha, utf8Size_of_digit? hb, utf8Size_of_digit? hc,
        utf8Size_of_digit? hd]
  · cases h

theorem readString_digits {digits : Text} {n : Nat} (h : hexValue? digits = some n)
    (lone : isTrail n = false) (own : isLead n = false) (t : Text) :
    readString .plain ('\\' :: 'u' :: (digits ++ t)) =
      push (Char.ofNat n) (readString .plain t) := by
  obtain ⟨a, b, c, d, rfl, sizes⟩ := exists_four_of_hexValue? h
  simp only [List.forall_mem_cons] at sizes
  simp [readString, Text.byteCount, sizes, h, lone, own]

theorem readString_pair {lead trail : Text} {m n : Nat} (hm : hexValue? lead = some m)
    (leads : isLead m = true) (hn : hexValue? trail = some n) (trails : isTrail n = true) (t : Text) :
    readString .plain ('\\' :: 'u' :: (lead ++ '\\' :: 'u' :: (trail ++ t))) =
      push (Char.ofNat (0x10000 + (m - 0xD800) * 0x400 + (n - 0xDC00))) (readString .plain t) := by
  obtain ⟨a, b, c, d, rfl, sizes⟩ := exists_four_of_hexValue? hm
  obtain ⟨e, f, g, i, rfl, others⟩ := exists_four_of_hexValue? hn
  simp only [List.forall_mem_cons] at sizes others
  have other : isTrail m = false := by
    simp [isLead] at leads
    simp [isTrail]
    omega
  simp [readString, Text.byteCount, sizes, others, hm, hn, leads, trails, other]

theorem readString_of_spells {body t : Text} (h : Spells body t) (rest : Text) :
    readString .plain (body ++ '"' :: rest) = .ok (t, rest) := by
  induction h with
  | nil => simp [readString]
  | plain quote backslash control _ ih => simp [readString, quote, backslash, control, ih, push]
  | @escape e c body t short _ ih =>
      have unicode : e ≠ 'u' := by
        rintro rfl
        cases short
      simp [readString, unicode, short, ih, push]
  | digits value lone own _ ih =>
      rw [List.cons_append, List.cons_append, List.append_assoc, readString_digits value lone own, ih,
        push]
  | pair hm leads hn trails _ ih =>
      simp only [List.cons_append, List.append_assoc]
      rw [readString_pair hm leads hn trails, ih, push]

/-- The half of a pair that has been read before another escape, if any. -/
inductive Half : Option Nat → Text → Prop
  | none : Half none []
  | lead {lead : Text} {m : Nat} : hexValue? lead = some m → isLead m = true →
      Half (some m) ('\\' :: 'u' :: lead)

/-- What has been read of a character that is not yet complete. -/
inductive Begun : StringState → Text → Prop
  | plain : Begun .plain []
  | escape : Begun .escape ['\\']
  | digits {lead : Option Nat} {half : Text} (start seen : Text) : Half lead half →
      Begun (.digits start seen lead) (half ++ '\\' :: 'u' :: seen)
  | backslash {m : Nat} {half : Text} : Half (some m) half → Begun (.pairBackslash m) half
  | letter {m : Nat} {half : Text} : Half (some m) half → Begun (.pairLetter m) (half ++ ['\\'])

theorem push_eq_ok {c : Char} {r : Read Text} {s rest : Text} :
    push c r = .ok (s, rest) ↔ ∃ t, r = .ok (t, rest) ∧ s = c :: t := by
  cases r with
  | error stop => simp [push]
  | ok r =>
      obtain ⟨t, u⟩ := r
      simp [push, eq_comm, and_comm]

/-- The start of a character is completed by what comes next. -/
theorem exists_spelling {state : StringState} {begun t s rest : Text} (start : Begun state begun)
    (h : readString state t = .ok (s, rest)) :
    ∃ body, t = body ++ '"' :: rest ∧ Spells (begun ++ body) s := by
  induction t generalizing state begun s with
  | nil => cases start <;> simp [readString] at h
  | cons c t ih =>
      cases start with
      | plain =>
          rw [readString] at h
          split at h
          · next quote =>
              cases h
              exact ⟨[], by rw [quote]; rfl, .nil⟩
          next quote =>
          split at h
          · next backslash =>
              obtain ⟨body, rfl, spells⟩ := ih .escape h
              exact ⟨c :: body, rfl, by rw [backslash]; exact spells⟩
          next backslash =>
          split at h
          · cases h
          · next printed =>
              obtain ⟨u, read, rfl⟩ := push_eq_ok.mp h
              obtain ⟨body, rfl, spells⟩ := ih .plain read
              exact ⟨c :: body, rfl, .plain quote backslash printed spells⟩
      | escape =>
          rw [readString] at h
          split at h
          · next unicode =>
              obtain ⟨body, rfl, spells⟩ := ih (.digits t [] .none) h
              exact ⟨c :: body, rfl, by rw [unicode]; exact spells⟩
          · split at h
            · next d short =>
                obtain ⟨u, read, rfl⟩ := push_eq_ok.mp h
                obtain ⟨body, rfl, spells⟩ := ih .plain read
                exact ⟨c :: body, rfl, .escape short spells⟩
            · cases h
      | digits first seen half =>
          simp only [readString] at h
          split at h
          · obtain ⟨body, rfl, spells⟩ := ih (.digits first (seen ++ [c]) half) h
            exact ⟨c :: body, rfl, by simpa using spells⟩
          cases value : hexValue? (seen ++ [c]) with
          | none => simp [value] at h
          | some n =>
              cases half with
              | lead hm leads =>
                  simp only [value] at h
                  split at h
                  · next trails =>
                      obtain ⟨u, read, rfl⟩ := push_eq_ok.mp h
                      obtain ⟨body, rfl, spells⟩ := ih .plain read
                      exact ⟨c :: body, rfl, by simpa using Spells.pair hm leads value trails spells⟩
                  · cases h
              | none =>
                  simp only [value] at h
                  split at h
                  · cases h
                  next lone =>
                  rw [Bool.not_eq_true] at lone
                  split at h
                  · next leads =>
                      obtain ⟨body, rfl, spells⟩ := ih (.backslash (.lead value leads)) h
                      exact ⟨c :: body, rfl, by simpa using spells⟩
                  · next own =>
                      rw [Bool.not_eq_true] at own
                      obtain ⟨u, read, rfl⟩ := push_eq_ok.mp h
                      obtain ⟨body, rfl, spells⟩ := ih .plain read
                      exact ⟨c :: body, rfl, by simpa using Spells.digits value lone own spells⟩
      | backslash half =>
          rw [readString] at h
          split at h
          · next backslash =>
              obtain ⟨body, rfl, spells⟩ := ih (.letter half) h
              exact ⟨c :: body, rfl, by simpa [backslash] using spells⟩
          · cases h
      | letter half =>
          rw [readString] at h
          split at h
          · next unicode =>
              obtain ⟨body, rfl, spells⟩ := ih (.digits t [] half) h
              exact ⟨c :: body, rfl, by simpa [unicode] using spells⟩
          · cases h

/-- A string is read up to the quote that ends it, as the text that it spells. -/
theorem readString_eq_ok {t s rest : Text} :
    readString .plain t = .ok (s, rest) ↔ ∃ body, Spells body s ∧ t = body ++ '"' :: rest := by
  constructor
  · intro h
    obtain ⟨body, same, spells⟩ := exists_spelling .plain h
    exact ⟨body, spells, same⟩
  · rintro ⟨body, spells, rfl⟩
    exact readString_of_spells spells rest

-- a code point of its own, two halves of one, and a short escape
example : readString .plain "\\u004e\\ud83d\\ude00\\/\", 1" =
    .ok (['N', Char.ofNat 0x1F600, '/'], ", 1") := by rfl

end EndpointProfile.Json
