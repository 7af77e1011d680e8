import EndpointProfile.Proofs.Literal
import EndpointProfile.Proofs.Profile.Entries
import EndpointProfile.Proofs.Text.Pieces
import EndpointProfile.Render

/-! Profiles as files of variable assignments. Nothing is escaped there, and no value reaches beyond
its line. -/
namespace EndpointProfile.Profile

def line (kl : Key × Literal) : Text := kl.1.name ++ '=' :: kl.2.unquoted

/-- The key and the value of a line, which is cut at its first equals sign. -/
def pair? (t : Text) : Option (Key × Literal) :=
  match Text.cutAt? '=' t with
  | none => none
  | some (name, text) =>
    match Key.ofName? name, Literal.quote text with
    | some k, .ok l => some (k, l)
    | _, _ => none

/-- Whether a line is for a key, whatever it says of it. -/
def Assigns (k : Key) (t : Text) : Prop := k.name ++ ['='] <+: t

instance (k : Key) : DecidablePred (Assigns k) := fun t =>
  inferInstanceAs (Decidable (k.name ++ ['='] <+: t))

theorem equals_not_mem_name (k : Key) : '=' ∉ k.name := by
  cases k <;> decide

theorem cutAt?_line (kl : Key × Literal) :
    Text.cutAt? '=' (line kl) = some (kl.1.name, kl.2.unquoted) :=
  Text.cutAt?_eq_some.mpr ⟨rfl, equals_not_mem_name kl.1⟩

theorem no_break_line (kl : Key × Literal) : '\n' ∉ line kl ∧ '\r' ∉ line kl := by
  have name : ∀ k : Key, '\n' ∉ k.name ∧ '\r' ∉ k.name := by
    rintro ⟨⟩ <;> decide
  have value := Literal.no_break_of_flawless kl.2.flawless
  simp [line, name kl.1, value]

theorem pair?_line (kl : Key × Literal) : pair? (line kl) = some kl := by
  have quoted : Literal.quote kl.2.unquoted = .ok kl.2 := Literal.quote_eq_ok.mpr rfl
  simp only [pair?, cutAt?_line, Key.ofName?_name, quoted]

/-- A line is for the key that stands before its first equals sign. -/
theorem assigns_iff {k : Key} {t : Text} :
    Assigns k t ↔ ∃ text, Text.cutAt? '=' t = some (k.name, text) := by
  constructor
  · rintro ⟨text, rfl⟩
    exact ⟨text, Text.cutAt?_eq_some.mpr ⟨by simp, equals_not_mem_name k⟩⟩
  · rintro ⟨text, cut⟩
    obtain ⟨rfl, -⟩ := Text.cutAt?_eq_some.mp cut
    exact ⟨text, by simp⟩

theorem assigns_line {k : Key} {kl : Key × Literal} : Assigns k (line kl) ↔ kl.1 = k := by
  rw [assigns_iff, cutAt?_line]
  constructor
  · rintro ⟨text, same⟩
    have named : kl.1.name = k.name := congrArg Prod.fst (Option.some.inj same)
    rw [← Option.some_inj, ← Key.ofName?_name kl.1, named, Key.ofName?_name]
  · rintro rfl
    exact ⟨kl.2.unquoted, rfl⟩

section
variable (p : Profile)

theorem splitOn_renderDotenv : p.renderDotenv.splitOn '\n' = p.entries.map line ++ [[]] := by
  have lines : p.renderDotenv = (p.entries.map line).flatMap (· ++ ['\n']) := by
    rw [renderDotenv, List.flatMap_map]
    simp [line]
  have free : ∀ t ∈ p.entries.map line, '\n' ∉ t :=
    List.forall_mem_map.mpr fun kl _ => (no_break_line kl).1
  rw [lines, Text.splitOn_ended free]

theorem filter_entries (k : Key) : p.entries.filter (fun kl => kl.1 = k) = [(k, p.get k)] := by
  have one : Key.all.filter (fun j => j = k) = [k] := by cases k <;> rfl
  rw [entries, List.filter_map]
  exact congrArg (List.map _) one

/-- How the lines of a file say what the values of a profile are. -/
structure Stated (lines : List Text) : Prop where
  count : lines.length = 9
  unbroken : ∀ t ∈ lines, '\n' ∉ t ∧ '\r' ∉ t
  cut : lines.map (Text.cutAt? '=') = Key.all.map fun k => some (k.name, (p.get k).unquoted)
  read : ∃ pairs, lines.mapM pair? = some pairs ∧ ofEntries pairs = .ok p
  single : ∀ k, lines.filter (Assigns k) = [line (k, p.get k)]

theorem stated_lines : p.Stated (p.entries.map line) where
  count := by rw [List.length_map, entries, List.length_map]; rfl
  unbroken := List.forall_mem_map.mpr fun kl _ => no_break_line kl
  cut := by
    rw [entries, List.map_map, List.map_map]
    exact List.map_congr_left fun k _ => cutAt?_line (k, p.get k)
  read := ⟨p.entries, Text.mapM_map_inverse pair?_line p.entries, ofEntries_entries p⟩
  single k := by
    have own : (fun t => decide (Assigns k t)) ∘ line = fun kl => decide (kl.1 = k) :=
      funext fun kl => decide_eq_decide.mpr assigns_line
    rw [List.filter_map, own, filter_entries, List.map_singleton]

end

theorem Stated.unique {p q : Profile} {lines : List Text} (hp : p.Stated lines)
    (hq : q.Stated lines) : p = q := by
  obtain ⟨pairs, read, made⟩ := hp.read
  obtain ⟨others, again, other⟩ := hq.read
  obtain rfl := Option.some.inj (read.symm.trans again)
  exact Except.ok.inj (made.symm.trans other)

/-- A profile in variable assignments is one line for each key, and these lines tell it from all
other profiles. -/
theorem renderDotenv_stated (p : Profile) :
    (∃ lines, p.renderDotenv.splitOn '\n' = lines ++ [[]] ∧ p.Stated lines) ∧
      ∀ q : Profile, p.renderDotenv = q.renderDotenv ↔ p = q := by
  refine ⟨⟨p.entries.map line, splitOn_renderDotenv p, stated_lines p⟩, fun q => ⟨?_, congrArg _⟩⟩
  intro same
  have lines : p.entries.map line = q.entries.map line := by
    rw [← List.append_left_inj [[]], ← splitOn_renderDotenv, ← splitOn_renderDotenv, same]
  have stated := stated_lines q
  rw [← lines] at stated
  exact (stated_lines p).unique stated

end EndpointProfile.Profile
