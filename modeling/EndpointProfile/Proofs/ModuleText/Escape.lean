import EndpointProfile.ModuleText

/-! Texts between single quotes: which ones can be read, and what is read of an escaped text. -/
namespace EndpointProfile.ModuleText

/-- What may stand between single quotes, and the text that it stands for. A backslash comes before
a backslash or a quote of either kind, and no apostrophe comes without one. -/
inductive StandsFor : Text → Text → Prop
  | nil : StandsFor [] []
  | plain {c : Char} {body raw : Text} : c ≠ '\'' → c ≠ '\\' →
      StandsFor body raw → StandsFor (c :: body) (c :: raw)
  | pair {c : Char} {body raw : Text} : c = '\\' ∨ c = '\'' ∨ c = '"' →
      StandsFor body raw → StandsFor ('\\' :: c :: body) (c :: raw)

theorem unescape?_plain {c : Char} (t : Text) (quote : c ≠ '\'') (backslash : c ≠ '\\') :
    unescape? (c :: t) = (unescape? t).map (c :: ·) := by
  rw [unescape?.eq_3 c t fun d u h => absurd h backslash, if_neg (by simp [quote, backslash])]

theorem unescape?_eq_some {body raw : Text} : unescape? body = some raw ↔ StandsFor body raw := by
  constructor
  · intro h
    induction body using unescape?.induct generalizing raw with
    | case1 =>
        obtain rfl : [] = raw := by simpa [unescape?] using h
        exact .nil
    | case2 c t allowed ih =>
        rw [unescape?, if_pos allowed, Option.map_eq_some_iff] at h
        obtain ⟨rest, read, rfl⟩ := h
        exact .pair allowed (ih read)
    | case3 c t refused =>
        rw [unescape?, if_neg refused] at h
        cases h
    | case4 c t unpaired refused =>
        rw [unescape?.eq_3 c t unpaired, if_pos refused] at h
        cases h
    | case5 c t unpaired kept ih =>
        rw [unescape?.eq_3 c t unpaired, if_neg kept, Option.map_eq_some_iff] at h
        obtain ⟨rest, read, rfl⟩ := h
        rw [not_or] at kept
        exact .plain kept.2 kept.1 (ih read)
  · intro h
    induction h with
    | nil => rfl
    | plain quote backslash _ ih => rw [unescape?_plain _ quote backslash, ih, Option.map_some]
    | pair allowed _ ih => rw [unescape?, if_pos allowed, ih, Option.map_some]

theorem escape_cons (c : Char) (t : Text) :
    escape (c :: t) = (if c = '\\' ∨ c = '\'' then ['\\', c] else [c]) ++ escape t := rfl

theorem escape_standsFor (t : Text) : StandsFor (escape t) t := by
  induction t with
  | nil => exact .nil
  | cons c t ih =>
      rw [escape_cons]
      split
      · next special => exact .pair (special.imp_right .inl) ih
      · next plain =>
          rw [not_or] at plain
          exact .plain plain.2 plain.1 ih

theorem unescape?_escape (t : Text) : unescape? (escape t) = some t :=
  unescape?_eq_some.mpr (escape_standsFor t)

theorem mem_escape {c : Char} {t : Text} (h : c ∈ escape t) : c = '\\' ∨ c ∈ t := by
  obtain ⟨d, hd, hc⟩ := List.mem_flatMap.mp h
  split at hc
  · rcases List.mem_cons.mp hc with rfl | hc
    · exact .inl rfl
    · exact .inr (List.mem_singleton.mp hc ▸ hd)
  · exact .inr (List.mem_singleton.mp hc ▸ hd)

end EndpointProfile.ModuleText
