import EndpointProfile.Profile.Explorer
import EndpointProfile.Proofs.Url.Reading

/-! Addresses of the web with more written after them. What follows the last slash that is joined to
an address leaves its scheme, its host and its port as they are, unless blanks come in between. -/
namespace EndpointProfile.Url

def IsWeb (scheme : Text) : Prop :=
  scheme = "http" ∨ scheme = "https"

theorem IsWeb.special {scheme : Text} (web : IsWeb scheme) : isSpecialScheme scheme = true := by
  rcases web with rfl | rfl <;> decide

theorem IsWeb.ne_file {scheme : Text} (web : IsWeb scheme) : scheme ≠ "file" := by
  rcases web with rfl | rfl <;> decide

/-- What is read of an address after its scheme and the slashes that follow. -/
def afterScheme? (t : Text) : Option (Text × Text) :=
  (splitScheme? (cleaned t)).map fun cut => (cut.1, cut.2.dropWhile (isSlash true))

/-- An address is cut into its scheme, its authority and the rest. -/
structure Cut (t scheme head rest : Text) : Prop where
  split : afterScheme? t = some (scheme, head ++ rest)
  inside : Within head
  outside : Beyond rest

section
variable {t scheme head rest : Text}

theorem scheme_withAuthority {u : Url} (read : withAuthority scheme t = .ok u) : u.scheme = scheme := by
  unfold withAuthority at read
  cases authority : readAuthority scheme t with
  | error f =>
      rw [authority] at read
      cases read
  | ok parts =>
      rw [authority] at read
      cases read
      rfl

theorem scheme_localFile {u : Url} (read : localFile t = .ok u) : u.scheme = "file" := by
  unfold localFile at read
  simp only [bind, Except.bind] at read
  split at read
  · split at read
    · cases read
    · cases read
      rfl
  · cases read
    rfl

theorem exists_cut {u : Url} (read : parse t = .ok u) (web : IsWeb u.scheme) :
    ∃ head rest, Cut t u.scheme head rest := by
  unfold parse at read
  split at read
  · cases read
  · next scheme rest split =>
      have same : u.scheme = scheme := by
        split at read
        · next file =>
            exact absurd (scheme_localFile read) web.ne_file
        · split at read
          · exact scheme_withAuthority read
          · split at read
            · exact scheme_withAuthority read
            · cases read
              rfl
      refine ⟨_, _, ?_, within_takeWhile (rest.dropWhile (isSlash true)),
        beyond_dropWhile (rest.dropWhile (isSlash true))⟩
      rw [List.takeWhile_append_dropWhile, afterScheme?, split, same]
      rfl

theorem parse_of_cut (cut : Cut t scheme head rest) (web : IsWeb scheme) :
    parse t = (readAuthority scheme head).map fun read =>
      ⟨scheme, some read.1, .segments (segmentsAfter scheme (beforeQuery rest)),
        (splitQuery true rest).2.1, (splitQuery true rest).2.2⟩ := by
  obtain ⟨⟨scheme', after⟩, split, same⟩ := Option.map_eq_some_iff.mp cut.split
  obtain ⟨rfl, whole⟩ := Prod.mk.inj same
  dsimp only at whole
  unfold parse
  rw [split]
  dsimp only
  rw [if_neg web.ne_file, if_pos web.special, whole]
  exact withAuthority_append web.special cut.inside cut.outside

/-- Whether a text ends in a blank that stays if more follows. -/
def endsInBlank (t : Text) : Bool :=
  (t.filter fun c => !isBreak c).getLast?.any isEdge

theorem isEdge_of_isBreak {c : Char} (h : isBreak c = true) : isEdge c = true := by
  simp only [isBreak, Bool.or_eq_true, decide_eq_true_eq] at h
  rcases h with (rfl | rfl) | rfl <;> decide

/-- A text without blanks of any kind. -/
def Solid (t : Text) : Prop :=
  ∀ c ∈ t, isEdge c = false

theorem filter_of_solid {s : Text} (solid : Solid s) : s.filter (fun c => !isBreak c) = s := by
  rw [List.filter_eq_self]
  intro c inside
  cases broken : isBreak c with
  | false => rfl
  | true =>
      have here := solid c inside
      rw [isEdge_of_isBreak broken] at here
      cases here

/-- Behind what is not blank, just the blanks that are no breaks stay. -/
theorem endsInBlank_iff {a s e : Text} (nonempty : s ≠ []) (bare : Text.Bare isEdge s)
    (blanks : Text.Only isEdge e) :
    endsInBlank (a ++ s ++ e) = true ↔ e.filter (fun c => !isBreak c) ≠ [] := by
  obtain ⟨s, c, rfl⟩ := (List.eq_nil_or_concat' s).resolve_left nonempty
  have outside : isEdge c = false := bare.ending c (by simp)
  have kept : [c].filter (fun c => !isBreak c) = [c] :=
    filter_of_solid fun d here => List.mem_singleton.mp here ▸ outside
  rw [endsInBlank, List.filter_append, List.filter_append, List.filter_append, kept]
  by_cases gone : e.filter (fun c => !isBreak c) = []
  · rw [gone, List.append_nil, ← List.append_assoc, List.getLast?_concat, Option.any_some, outside]
    exact iff_of_false Bool.false_ne_true (not_not_intro rfl)
  · rw [List.getLast?_append_of_ne_nil _ gone, List.getLast?_eq_some_getLast gone, Option.any_some]
    exact iff_of_true (blanks _ (List.mem_of_mem_filter (List.getLast_mem gone))) gone

/-- What is read of an address with a slash and more after it, where blanks are before the address. -/
theorem cleaned_extended {a m tail : Text} (blanks : Text.Only isEdge a)
    (start : ∃ c ∈ m.head?, isEdge c = false) (some : tail ≠ [])
    (solid : Solid tail) :
    cleaned (a ++ m ++ '/' :: tail) = m.filter (fun c => !isBreak c) ++ '/' :: tail := by
  have stripped : Text.strip isEdge (a ++ m ++ '/' :: tail) = m ++ '/' :: tail := by
    refine Text.strip_eq_iff.mpr ⟨a, [], blanks, Text.only_nil _, by simp, ?_, ?_⟩
    · obtain ⟨c, first, outside⟩ := start
      intro d first'
      rw [List.head?_append, Option.mem_def.mp first] at first'
      obtain rfl := Option.some.inj first'
      exact outside
    · intro c last
      rw [List.getLast?_append_of_ne_nil _ (List.cons_ne_nil _ _), List.getLast?_cons_of_ne_nil some] at last
      exact solid c (List.mem_of_mem_getLast? last)
  have kept : ('/' :: tail).filter (fun c => !isBreak c) = '/' :: tail :=
    filter_of_solid (List.forall_mem_cons.mpr ⟨rfl, solid⟩)
  rw [cleaned, stripped, List.filter_append, kept]

/-- Where more is joined to a text, the slashes at its end make way and the blanks at its end stay.
`front` is what is read of the text, and `kept` what is read of it, up to there, when it is joined. -/
structure Joint (t front kept slashes blanks : Text) : Prop where
  whole : front ++ blanks = kept ++ slashes
  slash : Text.Only (· = '/') slashes
  blank : Text.Only isEdge blanks
  either : blanks = [] ∨ slashes = []
  ends : endsInBlank t = true ↔ blanks ≠ []

theorem not_mem_slashes {y : Text} (slashes : Text.Only (· = '/') y) {c : Char} (other : c ≠ '/') :
    c ∉ y :=
  fun here => other (of_decide_eq_true (slashes c here))

theorem eq_nil_of_ends {s e m y : Text} (whole : s ++ e = m ++ y) (blanks : Text.Only isEdge e)
    (slashes : Text.Only (· = '/') y) : e = [] ∨ y = [] := by
  rcases List.eq_nil_or_concat' e with rfl | ⟨e, c, rfl⟩
  · exact .inl rfl
  · rcases List.eq_nil_or_concat' y with rfl | ⟨y, d, rfl⟩
    · exact .inr rfl
    · have same := congrArg List.getLast? whole
      rw [← List.append_assoc, ← List.append_assoc, List.getLast?_concat, List.getLast?_concat,
        Option.some_inj] at same
      have edge := blanks c (by simp)
      rw [same, of_decide_eq_true (slashes d (by simp))] at edge
      exact absurd edge (by decide)

theorem head?_of_whole {s e m y : Text} (whole : s ++ e = m ++ y) {c : Char} (inside : c ∈ s)
    (free : c ∉ y) (bare : Text.Bare isEdge s) : ∃ d ∈ m.head?, isEdge d = false := by
  have here : c ∈ m := by
    have both : c ∈ m ++ y := whole ▸ List.mem_append_left e inside
    exact (List.mem_append.mp both).resolve_right free
  have first := congrArg List.head? whole
  rw [List.head?_append_of_ne_nil _ (List.ne_nil_of_mem inside),
    List.head?_append_of_ne_nil _ (List.ne_nil_of_mem here)] at first
  have some := List.head?_eq_some_head (List.ne_nil_of_mem here)
  exact ⟨_, some, bare.start _ (first.trans some)⟩

/-- An address with one slash and more in place of the slashes at its end. -/
def extended (t tail : Text) : Text :=
  Text.dropEndWhile (· = '/') t ++ '/' :: tail

theorem exists_joint (colon : ':' ∈ cleaned t) : ∃ x y z, Joint t (cleaned t) x y z ∧
    ∀ tail, tail ≠ [] → Solid tail → cleaned (extended t tail) = x ++ '/' :: tail := by
  obtain ⟨a, e, before, after, whole, bare⟩ :=
    Text.strip_eq_iff.mp (rfl : Text.strip isEdge t = Text.strip isEdge t)
  obtain ⟨y, slashes, cut, last⟩ :=
    Text.dropEndWhile_eq_iff.mp (rfl : Text.dropEndWhile (· = '/') t = _)
  have inside : ':' ∈ Text.strip isEdge t := List.mem_of_mem_filter colon
  have free : ':' ∉ y := not_mem_slashes slashes (by decide)
  obtain ⟨m, front, rest⟩ : ∃ m, Text.dropEndWhile (· = '/') t = a ++ m ∧
      Text.strip isEdge t ++ e = m ++ y := by
    have same := whole.symm.trans cut
    rw [List.append_assoc] at same
    rcases List.append_eq_append_iff.mp same with ⟨m, front, rest⟩ | ⟨m, -, rest⟩
    · exact ⟨m, front, rest⟩
    · have here : ':' ∈ y := by
        rw [rest]
        exact List.mem_append_right _ (List.mem_append_left _ inside)
      exact absurd here free
  refine ⟨m.filter fun c => !isBreak c, y, e.filter fun c => !isBreak c, ⟨?_, slashes, ?_, ?_, ?_⟩, ?_⟩
  · have kept : y.filter (fun c => !isBreak c) = y := filter_of_solid fun c here => by
      rw [of_decide_eq_true (slashes c here)]
      decide
    rw [cleaned, ← List.filter_append, rest, List.filter_append, kept]
  · exact fun c here => after c (List.mem_of_mem_filter here)
  · exact (eq_nil_of_ends rest after slashes).imp_left fun none => by rw [none, List.filter_nil]
  · conv_lhs => rw [whole]
    exact endsInBlank_iff (List.ne_nil_of_mem inside) bare after
  · intro tail some solid
    rw [extended, front]
    exact cleaned_extended before (head?_of_whole rest inside free bare) some solid

/-- What is read of an address after its scheme comes again when more is written after it. -/
theorem afterScheme?_extended {after : Text} (cut : afterScheme? t = some (scheme, after))
    (nonempty : after ≠ []) : ∃ x y z, Joint t after x y z ∧ ∀ tail, tail ≠ [] → Solid tail →
      afterScheme? (extended t tail) = some (scheme, x ++ '/' :: tail) := by
  obtain ⟨⟨scheme', behind⟩, split, same⟩ := Option.map_eq_some_iff.mp cut
  obtain ⟨rfl, stripped⟩ := Prod.mk.inj same
  obtain ⟨name, whole, only, alpha, lower⟩ := splitScheme?_eq_some.mp split
  obtain ⟨slashes, before, rfl, first⟩ := Text.dropWhile_eq_iff.mp stripped
  have colon : ':' ∈ cleaned t := by
    rw [whole]
    exact List.mem_append_right _ List.mem_cons_self
  obtain ⟨front, y, z, joint, joined⟩ := exists_joint colon
  -- a slash at the end is none of those after the scheme, since something comes in between
  have notAll (m : Text) : y ≠ m ++ (after ++ z) := by
    intro all
    obtain ⟨c, rest, rfl⟩ := List.exists_cons_of_ne_nil nonempty
    have outside := first c rfl
    rw [of_decide_eq_true (joint.slash c (by simp [all]))] at outside
    exact absurd outside (by decide)
  obtain ⟨x, rfl, rest⟩ : ∃ x, front = name ++ ':' :: (slashes ++ x) ∧ after ++ z = x ++ y := by
    have same : (name ++ ':' :: slashes) ++ (after ++ z) = front ++ y := by
      rw [← joint.whole, whole]
      simp
    rcases List.append_eq_append_iff.mp same with ⟨x, start, rest⟩ | ⟨m, -, rest⟩
    · exact ⟨x, by simp [start], rest⟩
    · exact absurd rest (notAll m)
  refine ⟨x, y, z, { joint with whole := rest }, fun tail some solid => ?_⟩
  have again : splitScheme? (cleaned (extended t tail)) =
      .some (scheme', slashes ++ (x ++ '/' :: tail)) := by
    refine splitScheme?_eq_some.mpr ⟨name, ?_, only, alpha, lower⟩
    rw [joined tail some solid]
    simp
  have starts : ∀ c ∈ (x ++ '/' :: tail).head?, isSlash true c = false := by
    cases x with
    | nil => exact absurd rest.symm (notAll [])
    | cons d x =>
        obtain ⟨c, after, rfl⟩ := List.exists_cons_of_ne_nil nonempty
        obtain ⟨rfl, -⟩ := List.cons.inj rest
        exact first
  have dropped : (slashes ++ (x ++ '/' :: tail)).dropWhile (isSlash true) = x ++ '/' :: tail :=
    Text.dropWhile_eq_iff.mpr ⟨slashes, before, rfl, starts⟩
  rw [afterScheme?, again, Option.map_some, dropped]

theorem not_within_of_mark {c : Char} (mark : c = '?' ∨ c = '#') (inside : Within head) : c ∉ head := by
  intro here
  rcases mark with rfl | rfl <;> exact absurd (inside _ here) (by decide)

theorem within_of_edges {z : Text} (blanks : Text.Only isEdge z) : Within z := by
  intro c here
  have all : (!endsAuthority true c) = true :=
    of_edge (P := fun c => (!endsAuthority true c) = true) (by decide) (blanks c here)
  exact all

theorem beyond_slash (tail : Text) : Beyond ('/' :: tail) := by
  rintro c ⟨⟩
  rfl

theorem beyond_append {before after : Text} (outside : Beyond before) (later : Beyond after) :
    Beyond (before ++ after) := by
  cases before with
  | nil => exact later
  | cons c before => exact outside

theorem beyond_of_append {before after : Text} (outside : Beyond (before ++ after)) : Beyond before := by
  cases before with
  | nil => exact fun _ first => nomatch first
  | cons c before => exact outside

theorem exists_of_slashes {x y : Text} (inside : Within head) (slashes : Text.Only (· = '/') y)
    (whole : head ++ rest = x ++ y) : ∃ m, x = head ++ m ∧ rest = m ++ y := by
  rcases List.append_eq_append_iff.mp whole with found | ⟨m, rfl, rfl⟩
  · exact found
  · obtain rfl : m = [] := by
      refine List.eq_nil_iff_forall_not_mem.mpr fun c here => ?_
      have within := inside c (List.mem_append_right _ here)
      rw [of_decide_eq_true (slashes c (List.mem_append_left _ here))] at within
      exact absurd within (by decide)
    exact ⟨[], by simp, rfl⟩

/-- More that is written after an address comes after its authority, unless blanks right after that
stay: then it comes after these. -/
theorem Cut.of_extended (cut : Cut t scheme head rest) (nonempty : head ≠ []) :
    (endsInBlank t = true ∧ rest = [] ∧ ∃ s c, isEdge c = true ∧ ∀ tail, tail ≠ [] → Solid tail →
      Cut (extended t tail) scheme (s ++ [c]) ('/' :: tail)) ∨
    (¬ (endsInBlank t = true ∧ rest = []) ∧ ∃ before,
      (∀ c, c = '?' ∨ c = '#' → (c ∈ before ↔ c ∈ rest)) ∧ ∀ tail, tail ≠ [] → Solid tail →
        Cut (extended t tail) scheme head (before ++ '/' :: tail)) := by
  obtain ⟨x, y, z, joint, joined⟩ :=
    afterScheme?_extended cut.split (List.append_ne_nil_of_left_ne_nil nonempty rest)
  have whole := joint.whole
  rcases joint.either with rfl | rfl
  · right
    rw [List.append_nil] at whole
    obtain ⟨m, rfl, rfl⟩ := exists_of_slashes cut.inside joint.slash whole
    refine ⟨fun blank => joint.ends.mp blank.1 rfl, m, fun c mark => ?_, fun tail some solid => ?_⟩
    · have other : c ≠ '/' := by rcases mark with rfl | rfl <;> decide
      rw [List.mem_append, or_iff_left (not_mem_slashes joint.slash other)]
    · refine ⟨?_, cut.inside, beyond_append (beyond_of_append cut.outside) (beyond_slash tail)⟩
      rw [joined tail some solid, List.append_assoc]
  · rw [List.append_nil] at whole
    subst whole
    by_cases blank : endsInBlank t = true ∧ rest = []
    · left
      obtain ⟨held, rfl⟩ := blank
      obtain ⟨s, c, rfl⟩ := (List.eq_nil_or_concat' z).resolve_left (joint.ends.mp held)
      refine ⟨held, rfl, head ++ s, c, joint.blank c (by simp), fun tail some solid => ?_⟩
      refine ⟨?_, ?_, beyond_slash tail⟩
      · rw [joined tail some solid]
        simp
      · rw [List.append_assoc]
        exact Text.only_append.mpr ⟨cut.inside, within_of_edges joint.blank⟩
    · right
      refine ⟨blank, rest ++ z, fun c mark => ?_, fun tail some solid => ⟨?_, cut.inside, ?_⟩⟩
      · rw [List.mem_append, or_iff_left (not_within_of_mark mark (within_of_edges joint.blank))]
      · rw [joined tail some solid]
        simp
      · cases rest with
        | nil =>
            have none : z = [] := by
              by_contra held
              exact blank ⟨joint.ends.mpr held, rfl⟩
            rw [none]
            exact beyond_slash tail
        | cons c rest => exact cut.outside

theorem mem_cleaned {c : Char} (outside : isEdge c = false) : c ∈ cleaned t ↔ c ∈ t := by
  obtain ⟨a, e, before, after, whole, -⟩ :=
    Text.strip_eq_iff.mp (rfl : Text.strip isEdge t = Text.strip isEdge t)
  have notEdge {z : Text} (edges : Text.Only isEdge z) : c ∉ z := by
    intro here
    rw [edges c here] at outside
    cases outside
  have kept : (!isBreak c) = true := by
    cases broken : isBreak c with
    | false => rfl
    | true =>
        rw [isEdge_of_isBreak broken] at outside
        cases outside
  rw [cleaned, List.mem_filter, and_iff_left kept]
  conv_rhs => rw [whole]
  rw [List.mem_append, List.mem_append, or_iff_left (notEdge after), or_iff_right (notEdge before)]

theorem Cut.mem_iff (cut : Cut t scheme head rest) {c : Char} (mark : c = '?' ∨ c = '#') :
    c ∈ t ↔ c ∈ rest := by
  obtain ⟨⟨scheme', behind⟩, split, same⟩ := Option.map_eq_some_iff.mp cut.split
  obtain ⟨slashes, before, whole, -⟩ := Text.dropWhile_eq_iff.mp (Prod.mk.inj same).2
  obtain ⟨name, text, only, -, -⟩ := splitScheme?_eq_some.mp split
  have edge : isEdge c = false := by rcases mark with rfl | rfl <;> rfl
  have noColon : c ≠ ':' := by rcases mark with rfl | rfl <;> decide
  have noName : c ∉ name := by
    intro here
    have wrong := only c here
    rcases mark with rfl | rfl <;> exact absurd wrong (by decide)
  have noSlash : c ∉ slashes := by
    intro here
    have wrong := before c here
    rcases mark with rfl | rfl <;> exact absurd wrong (by decide)
  dsimp only at whole
  rw [← mem_cleaned edge, text, whole, List.mem_append, List.mem_cons, List.mem_append,
    List.mem_append, or_iff_right noName, or_iff_right noColon, or_iff_right noSlash,
    or_iff_right (not_within_of_mark mark cut.inside)]

/-- An address that pages can be put below: it has no query and no fragment, and if it ends in a
blank then there is a path before that. -/
structure Extensible (t : Text) : Prop where
  noQuery : '?' ∉ t
  noFragment : '#' ∉ t
  blank : endsInBlank t = true → ∃ cut ∈ afterScheme? t, ∃ c ∈ cut.2, isSlash true c = true

theorem Cut.extensible_iff (cut : Cut t scheme head rest) : Extensible t ↔
    ('?' ∉ rest ∧ '#' ∉ rest) ∧ ¬ (endsInBlank t = true ∧ rest = []) := by
  rw [← cut.mem_iff (.inl rfl), ← cut.mem_iff (.inr rfl)]
  constructor
  · rintro ⟨noQuery, noFragment, blank⟩
    refine ⟨⟨noQuery, noFragment⟩, ?_⟩
    rintro ⟨held, rfl⟩
    obtain ⟨parts, found, c, here, slash⟩ := blank held
    obtain rfl : (scheme, head ++ []) = parts := Option.some.inj (cut.split.symm.trans found)
    rw [List.append_nil] at here
    have inside := cut.inside c here
    simp only [isSlash, Bool.true_and, Bool.or_eq_true, decide_eq_true_eq] at slash
    rcases slash with rfl | rfl <;> exact absurd inside (by decide)
  · rintro ⟨⟨noQuery, noFragment⟩, more⟩
    refine ⟨noQuery, noFragment, fun held => ⟨_, cut.split, ?_⟩⟩
    cases rest with
    | nil => exact absurd ⟨held, rfl⟩ more
    | cons c rest =>
        refine ⟨c, by simp, ?_⟩
        have ends := cut.outside c rfl
        simp only [endsAuthority, Bool.true_and, Bool.or_eq_true, decide_eq_true_eq] at ends
        rcases ends with ((rfl | rfl) | rfl) | rfl
        · rfl
        · exact absurd ((cut.mem_iff (.inl rfl)).mpr List.mem_cons_self) noQuery
        · exact absurd ((cut.mem_iff (.inr rfl)).mpr List.mem_cons_self) noFragment
        · rfl

theorem parse_eq_ok_of_cut {u : Url} (cut : Cut t scheme head rest) (web : IsWeb scheme) :
    parse t = .ok u ↔ ∃ a, (∃ left, readAuthority scheme head = .ok (a, left)) ∧
      u = ⟨scheme, some a, .segments (segmentsAfter scheme (beforeQuery rest)),
        (splitQuery true rest).2.1, (splitQuery true rest).2.2⟩ := by
  rw [parse_of_cut cut web]
  cases readAuthority scheme head with
  | error f => exact iff_of_false nofun (fun ⟨_, ⟨_, same⟩, _⟩ => nomatch same)
  | ok read =>
      rw [Except.map, Except.ok.injEq]
      constructor
      · rintro rfl
        exact ⟨read.1, ⟨read.2, rfl⟩, rfl⟩
      · rintro ⟨a, ⟨left, same⟩, rfl⟩
        cases same
        rfl

/-- A page is where an address leads, under a path that ends in some text. -/
def Leads (base page ending : Text) : Prop :=
  ∃ u v, parse base = .ok u ∧ parse page = .ok v ∧ v.scheme = u.scheme ∧ v.host? = u.host? ∧
    v.port? = u.port? ∧ ending <:+ v.path.text

theorem solid_of_plain {segment : Text} (plain : Plain segment) : Solid segment := fun c here =>
  of_isAlphanum (P := fun c => isEdge c = false) (by decide) (plain c here)

theorem solid_segments {a b : Text} (hereA : Plain a) (hereB : Plain b) : Solid (a ++ '/' :: b) := by
  rw [Solid, List.forall_mem_append, List.forall_mem_cons]
  exact ⟨solid_of_plain hereA, rfl, solid_of_plain hereB⟩

theorem not_mem_of_plain {segment : Text} {c : Char} (mark : c = '?' ∨ c = '#')
    (plain : Plain segment) : c ∉ segment := by
  intro here
  have alnum := plain c here
  rcases mark with rfl | rfl <;> exact absurd alnum (by decide)

theorem ne_nil_of_readAuthority {read : Authority × Text} (special : isSpecialScheme scheme = true)
    (ok : readAuthority scheme head = .ok read) : head ≠ [] := by
  rintro rfl
  rw [readAuthority_special special] at ok
  cases ok

variable {u : Url} (read : parse t = .ok u) (web : IsWeb u.scheme)
include read web

theorem leads_of_extensible (extensible : Extensible t) {a b : Text} (hereA : Plain a)
    (hereB : Plain b) : Leads t (extended t (a ++ '/' :: b)) ('/' :: (a ++ '/' :: b)) := by
  obtain ⟨head, rest, cut⟩ := exists_cut read web
  obtain ⟨authority, ⟨left, ok⟩, same⟩ := (parse_eq_ok_of_cut cut web).mp read
  obtain ⟨⟨noQuery, noFragment⟩, more⟩ := cut.extensible_iff.mp extensible
  rcases cut.of_extended (ne_nil_of_readAuthority web.special ok) with
    ⟨held, last, -⟩ | ⟨-, before, marks, joined⟩
  · exact absurd ⟨held, last⟩ more
  · have unmarked {c : Char} (mark : c = '?' ∨ c = '#') (free : c ∉ rest) :
        c ∉ before ++ '/' :: (a ++ '/' :: b) := by
      have noSlash : c ≠ '/' := by rcases mark with rfl | rfl <;> decide
      simp only [List.mem_append, List.mem_cons, marks c mark, free, noSlash, not_mem_of_plain mark hereA,
        not_mem_of_plain mark hereB, or_self, not_false_eq_true]
    have path := beforeQuery_eq_self (unmarked (.inl rfl) noQuery) (unmarked (.inr rfl) noFragment)
    have fits := joined _ (by simp) (solid_segments hereA hereB)
    have page := (parse_eq_ok_of_cut fits web).mpr ⟨authority, ⟨left, ok⟩, rfl⟩
    rw [path] at page
    obtain ⟨kept, ends⟩ := segmentsAfter_append web.special web.ne_file hereA hereB before
    rw [ends] at page
    refine ⟨u, _, read, page, rfl, by rw [same]; rfl, by rw [same]; rfl, ?_⟩
    refine ⟨kept.flatMap ('/' :: ·), ?_⟩
    simp [Path.text]

theorem not_leads_of_blank {head : Text} (cut : Cut t u.scheme head [])
    (blank : endsInBlank t = true) {tail : Text} (some : tail ≠ []) (solid : Solid tail)
    (ending : Text) : ¬ Leads t (extended t tail) ending := by
  obtain ⟨authority, ⟨left, ok⟩, same⟩ := (parse_eq_ok_of_cut cut web).mp read
  rcases cut.of_extended (ne_nil_of_readAuthority web.special ok) with
    ⟨-, -, s, c, edge, joined⟩ | ⟨more, -⟩
  · rintro ⟨-, v, -, page, -⟩
    have cut' := joined tail some solid
    obtain ⟨authority', ⟨left', ok'⟩, -⟩ := (parse_eq_ok_of_cut cut' web).mp page
    exact readAuthority_concat web.special edge cut'.inside _ ok'
  · exact absurd ⟨blank, rfl⟩ more

/-- Behind the mark of a query or a fragment nothing belongs to the path. -/
theorem exists_path_of_mark {c : Char} (mark : c = '?' ∨ c = '#') (inside : c ∈ t) :
    ∃ path : Path, ∀ tail, tail ≠ [] → Solid tail → ∀ v, parse (extended t tail) = .ok v →
      v.path = path := by
  obtain ⟨head, rest, cut⟩ := exists_cut read web
  obtain ⟨authority, ⟨left, ok⟩, same⟩ := (parse_eq_ok_of_cut cut web).mp read
  rcases cut.of_extended (ne_nil_of_readAuthority web.special ok) with
    ⟨-, rfl, -⟩ | ⟨-, before, marks, joined⟩
  · exact absurd ((cut.mem_iff mark).mp inside) List.not_mem_nil
  · refine ⟨.segments (segmentsAfter u.scheme (beforeQuery before)), fun tail some solid v page => ?_⟩
    obtain ⟨-, -, rfl⟩ := (parse_eq_ok_of_cut (joined tail some solid) web).mp page
    have here := (marks c mark).mpr ((cut.mem_iff mark).mp inside)
    dsimp only
    rw [beforeQuery_of_mem mark here]

/-- Below an address that is not extensible at most one page of each length is found. -/
theorem eq_of_leads (not : ¬ Extensible t) {a b : Text} (some : a ≠ []) (solidA : Solid a)
    (solidB : Solid b) (length : a.length = b.length) (toA : Leads t (extended t a) ('/' :: a))
    (toB : Leads t (extended t b) ('/' :: b)) : a = b := by
  have some' : b ≠ [] := List.ne_nil_of_length_pos (length ▸ List.length_pos_of_ne_nil some)
  have same {c : Char} (mark : c = '?' ∨ c = '#') (inside : c ∈ t) : a = b := by
    obtain ⟨path, all⟩ := exists_path_of_mark read web mark inside
    obtain ⟨-, v, -, pageA, -, -, -, endsA⟩ := toA
    obtain ⟨-, w, -, pageB, -, -, -, endsB⟩ := toB
    rw [all a some solidA v pageA] at endsA
    rw [all b some' solidB w pageB] at endsB
    have suffix := List.suffix_of_suffix_length_le endsA endsB (by simp [length])
    exact (List.cons.inj (suffix.eq_of_length (by simp [length]))).2
  obtain ⟨head, rest, cut⟩ := exists_cut read web
  rw [cut.extensible_iff, Decidable.not_and_iff_or_not, Decidable.not_not] at not
  rcases not with marked | ⟨blank, rfl⟩
  · rw [Decidable.not_and_iff_or_not, Decidable.not_not, Decidable.not_not] at marked
    rcases marked with here | here
    · exact same (.inl rfl) ((cut.mem_iff (.inl rfl)).mpr here)
    · exact same (.inr rfl) ((cut.mem_iff (.inr rfl)).mpr here)
  · exact absurd toA (not_leads_of_blank read web cut blank some solidA _)

end
end EndpointProfile.Url
