import EndpointProfile.Client
import EndpointProfile.Proofs.Profile.Explorer

/-! Addresses joined of parts. Parts may be joined from either end, and a client puts its paths
behind a base as joining does. -/
namespace EndpointProfile

section
variable {a b c : Text}

theorem joinPath_nil (a : Text) : joinPath a [] = a := rfl

theorem nil_joinPath (a : Text) : joinPath [] a = a := by
  cases a <;> rfl

theorem joinPath_ne_nil (someA : a ≠ []) (someB : b ≠ []) : joinPath a b ≠ [] := by
  rw [joinPath_eq_extended someA someB]
  exact List.append_ne_nil_of_right_ne_nil _ (List.cons_ne_nil _ _)

/-- What a part adds between two others is the same whichever it is joined to first: nothing if it
is made of slashes only. -/
theorem exists_inner (b : Text) : ∃ m,
    (∀ a : Text, Text.dropEndWhile (· = '/') (Url.extended a (b.dropWhile (· = '/'))) =
      Text.dropEndWhile (· = '/') a ++ m) ∧
    ∀ c : Text, '/' :: (Url.extended b (c.dropWhile (· = '/'))).dropWhile (· = '/') =
      m ++ '/' :: c.dropWhile (· = '/') := by
  obtain ⟨x, z, before, after, whole, bare⟩ :=
    Text.strip_eq_iff.mp (rfl : Text.strip (· = '/') b = _)
  generalize Text.strip (· = '/') b = m at whole bare
  subst whole
  -- what is joined to a side cuts off the slashes there, up to the core if there is one
  rcases eq_or_ne m [] with rfl | core
  · have slashes : Text.Only (· = '/') (x ++ [] ++ z) := by simp [before, after]
    have front : Text.dropEndWhile (· = '/') (x ++ [] ++ z) = [] :=
      List.rdropWhile_eq_nil_iff.mpr slashes
    refine ⟨[], fun a => ?_, fun c => ?_⟩
    · rw [List.dropWhile_eq_nil_iff.mpr slashes, List.append_nil]
      exact (List.rdropWhile_concat_pos _ _ '/' rfl).trans (List.rdropWhile_idempotent _ _)
    · rw [Url.extended, front]
      exact congrArg ('/' :: ·) (List.dropWhile_idempotent _ c)
  · refine ⟨'/' :: m, fun a => ?_, fun c => ?_⟩
    · rw [Text.dropWhile_bare before bare core, Url.extended, List.append_cons _ _ m,
        List.append_cons _ _ (m ++ z), ← List.append_assoc _ m z]
      exact Text.dropEndWhile_bare after bare core _
    · rw [Url.extended, Text.dropEndWhile_bare after bare core, Text.dropWhile_bare before bare core]
      rfl

theorem joinPath_assoc (a b c : Text) : joinPath (joinPath a b) c = joinPath a (joinPath b c) := by
  rcases eq_or_ne a [] with rfl | someA
  · rw [nil_joinPath, nil_joinPath]
  rcases eq_or_ne b [] with rfl | someB
  · rw [joinPath_nil, nil_joinPath]
  rcases eq_or_ne c [] with rfl | someC
  · rw [joinPath_nil, joinPath_nil]
  obtain ⟨m, front, behind⟩ := exists_inner b
  rw [joinPath_eq_extended (joinPath_ne_nil someA someB) someC,
    joinPath_eq_extended someA (joinPath_ne_nil someB someC),
    joinPath_eq_extended someA someB, joinPath_eq_extended someB someC]
  calc Url.extended (Url.extended a (b.dropWhile (· = '/'))) (c.dropWhile (· = '/'))
      = Text.dropEndWhile (· = '/') a ++ m ++ '/' :: c.dropWhile (· = '/') := by
        rw [← front]
        rfl
    _ = Url.extended a ((Url.extended b (c.dropWhile (· = '/'))).dropWhile (· = '/')) := by
        rw [List.append_assoc, ← behind]
        rfl

/-- Joining is associative, and the empty text is neutral on both sides. -/
theorem joinPath_monoid (a b c : Text) :
    joinPath (joinPath a b) c = joinPath a (joinPath b c) ∧ joinPath a [] = a ∧ joinPath [] a = a :=
  ⟨joinPath_assoc a b c, joinPath_nil a, nil_joinPath a⟩

end

theorem only_slash_iff {t : Text} : Text.Only (· = '/') t ↔ ∃ n, t = List.replicate n '/' := by
  constructor
  · intro slashes
    exact ⟨t.length, List.eq_replicate_length.mpr fun c here => of_decide_eq_true (slashes c here)⟩
  · rintro ⟨n, rfl⟩ c here
    exact decide_eq_true (List.eq_of_mem_replicate here)

theorem not_slash_iff {edge : Option Char} :
    (∀ c ∈ edge, decide (c = '/') = false) ↔ edge ≠ some '/' := by
  cases edge <;> simp

/-- What is left of a text without the slashes at its end. -/
structure Unslashed (t front : Text) : Prop where
  slashes : ∃ n, t = front ++ List.replicate n '/'
  ending : front.getLast? ≠ some '/'

namespace Unslashed

variable {t front rest : Text}

theorem iff_dropEndWhile : Unslashed t front ↔ Text.dropEndWhile (· = '/') t = front := by
  rw [Text.dropEndWhile_eq_iff]
  constructor
  · rintro ⟨⟨n, whole⟩, ending⟩
    exact ⟨_, only_slash_iff.mpr ⟨n, rfl⟩, whole, not_slash_iff.mpr ending⟩
  · rintro ⟨z, slashes, whole, ending⟩
    obtain ⟨n, rfl⟩ := only_slash_iff.mp slashes
    exact ⟨⟨n, whole⟩, not_slash_iff.mp ending⟩

theorem exists_front (t : Text) : ∃ front, Unslashed t front :=
  ⟨_, iff_dropEndWhile.mpr rfl⟩

theorem append (left : Unslashed t front) (n : Nat) :
    Unslashed (t ++ List.replicate n '/') front := by
  obtain ⟨⟨k, rfl⟩, ending⟩ := left
  refine ⟨⟨k + n, ?_⟩, ending⟩
  rw [List.replicate_add, List.append_assoc]

theorem address_eq (left : Unslashed t front) (path : Text) :
    Client.address (Client.base t) path = front ++ path :=
  congrArg (· ++ path) (iff_dropEndWhile.mp left)

theorem joinPath_eq (left : Unslashed t front) (given : t ≠ []) (more : rest ≠ []) :
    joinPath t rest = front ++ '/' :: rest.dropWhile (· = '/') := by
  rw [joinPath_eq_extended given more, Url.extended, iff_dropEndWhile.mp left]

theorem joinPath_slashes (left : Unslashed t front) (given : t ≠ [])
    (start : rest.head? ≠ some '/') {m : Nat} (slash : 1 ≤ m) :
    joinPath t (List.replicate m '/' ++ rest) = front ++ '/' :: rest := by
  have more : List.replicate m '/' ++ rest ≠ [] :=
    List.append_ne_nil_of_left_ne_nil (mt (List.replicate_eq_nil_iff _).mp (by omega)) _
  have bare : (List.replicate m '/' ++ rest).dropWhile (· = '/') = rest :=
    Text.dropWhile_eq_iff.mpr ⟨_, only_slash_iff.mpr ⟨m, rfl⟩, rfl, not_slash_iff.mpr start⟩
  rw [left.joinPath_eq given more, bare]

end Unslashed

/-- A client asks below its base as joining puts a path below it, with one slash in between,
however many there are on either side. -/
theorem address_eq_joinPath {base rest : Text} {m : Nat} (given : base ≠ [])
    (start : rest.head? ≠ some '/') (slash : 1 ≤ m) : ∃ front, Unslashed base front ∧
      Client.address (Client.base base) ('/' :: rest) = front ++ '/' :: rest ∧
      joinPath base (List.replicate m '/' ++ rest) = front ++ '/' :: rest ∧
      ∀ n, Client.address (Client.base (base ++ List.replicate n '/')) ('/' :: rest) =
          Client.address (Client.base base) ('/' :: rest) ∧
        joinPath (base ++ List.replicate n '/') (List.replicate m '/' ++ rest) =
          joinPath base (List.replicate m '/' ++ rest) := by
  obtain ⟨front, left⟩ := Unslashed.exists_front base
  refine ⟨front, left, left.address_eq _, left.joinPath_slashes given start slash, fun n => ⟨?_, ?_⟩⟩
  · rw [(left.append n).address_eq, left.address_eq]
  · have more : base ++ List.replicate n '/' ≠ [] := List.append_ne_nil_of_left_ne_nil given _
    rw [(left.append n).joinPath_slashes more start slash, left.joinPath_slashes given start slash]

/-- A base of slashes only and nothing behind the slashes of the path, and a base with a host and a
path of its own. -/
theorem address_eq_joinPath_slashes :
    let Agree (base rest : Text) : Prop := ∃ front, Unslashed base front ∧
      Client.address (Client.base base) ('/' :: rest) = front ++ '/' :: rest ∧
      joinPath base (List.replicate 3 '/' ++ rest) = front ++ '/' :: rest ∧
      ∀ n, Client.address (Client.base (base ++ List.replicate n '/')) ('/' :: rest) =
          Client.address (Client.base base) ('/' :: rest) ∧
        joinPath (base ++ List.replicate n '/') (List.replicate 3 '/' ++ rest) =
          joinPath base (List.replicate 3 '/' ++ rest)
    let slashes : Text := "//"
    let below : Text := "http://a.b/c//"
    let path : Text := "env/BASE_API"
    (1 ≤ 3 ∧ slashes ≠ [] ∧ ([] : Text).head? ≠ some '/' ∧ Agree slashes []) ∧
      below ≠ [] ∧ path.head? ≠ some '/' ∧ Agree below path ∧
      Client.address (Client.base below) ('/' :: path) = "http://a.b/c/env/BASE_API" := by
  intro Agree slashes below path
  have someSlashes : slashes ≠ [] := by decide
  have someBase : below ≠ [] := by decide
  have nothing : ([] : Text).head? ≠ some '/' := by decide
  have start : path.head? ≠ some '/' := by decide
  have slash : 1 ≤ 3 := by decide
  exact ⟨⟨slash, someSlashes, nothing, address_eq_joinPath someSlashes nothing slash⟩,
    someBase, start, address_eq_joinPath someBase start slash, by decide⟩

end EndpointProfile
