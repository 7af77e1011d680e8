import EndpointProfile.Proofs.Url.Host

/-! How addresses of the web are read when more is written at their end. -/
namespace EndpointProfile.Url

theorem splitScheme?_eq_some {t scheme rest : Text} : splitScheme? t = some (scheme, rest) ↔
    ∃ name, t = name ++ ':' :: rest ∧ Text.Only isSchemeCharacter name ∧
      (name.head?.map Char.isAlpha).getD false = true ∧ scheme = Text.lowerAscii name := by
  constructor
  · intro read
    have after := @List.drop_left _ (t.takeWhile isSchemeCharacter) (t.dropWhile isSchemeCharacter)
    rw [List.takeWhile_append_dropWhile] at after
    unfold splitScheme? at read
    simp only [after] at read
    split at read
    · next rest' colon =>
        split at read
        · next alpha =>
            cases read
            refine ⟨t.takeWhile isSchemeCharacter, ?_, ?_, alpha, rfl⟩
            · rw [← colon, List.takeWhile_append_dropWhile]
            · exact fun c inside => List.mem_takeWhile_imp inside
        · cases read
    · cases read
  · rintro ⟨name, rfl, only, alpha, rfl⟩
    have head : (name ++ ':' :: rest).takeWhile isSchemeCharacter = name := by
      rw [List.takeWhile_append_of_pos only, List.takeWhile_cons_of_neg (by decide), List.append_nil]
    unfold splitScheme?
    simp only [head, List.drop_left, alpha, if_true]

/-- A text without anything that ends an authority. -/
def Within (t : Text) : Prop :=
  Text.Only (fun c => !endsAuthority true c) t

/-- A text that is empty or starts with what ends an authority. -/
def Beyond (t : Text) : Prop :=
  ∀ c ∈ t.head?, endsAuthority true c = true

section
variable {t head rest : Text}

theorem within_takeWhile (t : Text) : Within (t.takeWhile fun c => !endsAuthority true c) :=
  fun _ inside => List.mem_takeWhile_imp (p := fun c => !endsAuthority true c) inside

theorem beyond_dropWhile (t : Text) : Beyond (t.dropWhile fun c => !endsAuthority true c) := by
  intro c first
  have stops := List.head?_dropWhile_not (fun c => !endsAuthority true c) t
  rw [Option.mem_def.mp first] at stops
  simpa using stops

theorem takeWhile_within (inside : Within head) (outside : Beyond rest) :
    (head ++ rest).takeWhile (fun c => !endsAuthority true c) = head := by
  rw [List.takeWhile_append_of_pos inside]
  cases rest with
  | nil => exact List.append_nil _
  | cons c rest =>
      rw [List.takeWhile_cons_of_neg (by simp [outside c rfl]), List.append_nil]

theorem takeWhile_of_within (inside : Within head) :
    head.takeWhile (fun c => !endsAuthority true c) = head := by
  have cut := takeWhile_within inside (fun _ first => nomatch first : Beyond [])
  rwa [List.append_nil] at cut

theorem splitLogin?_append (inside : Within head) (outside : Beyond rest) :
    splitLogin? true (head ++ rest) = (splitLogin? true head).map fun cut => (cut.1, cut.2 ++ rest) := by
  unfold splitLogin?
  rw [takeWhile_within inside outside, takeWhile_of_within inside]
  dsimp only
  split
  · have size : head.length - (head.reverse.takeWhile (· ≠ '@')).length ≤ head.length := Nat.sub_le _ _
    rw [List.take_append_of_le_length (by omega), List.drop_append_of_le_length size]
    rfl
  · rfl

theorem splitHost_append (inside : Within head) (outside : Beyond rest) (bracket : Bool) :
    splitHost true bracket (head ++ rest) =
      ((splitHost true bracket head).1, (splitHost true bracket head).2 ++ rest) := by
  induction head generalizing bracket with
  | nil =>
      cases rest with
      | nil => rfl
      | cons c rest => simp [splitHost, outside c rfl]
  | cons c head ih =>
      obtain ⟨-, inside⟩ := Text.only_cons.mp inside
      rw [List.cons_append, splitHost, splitHost]
      split
      · rfl
      · rw [ih inside]

theorem splitHost_of_within {t : Text} (inside : Within t) (bracket : Bool) :
    ∃ host left, splitHost true bracket t = (host, left) ∧ t = host ++ left ∧
      (left = [] ∨ ∃ digits, left = ':' :: digits ∧ Within digits) := by
  induction t generalizing bracket with
  | nil => exact ⟨[], [], rfl, rfl, .inl rfl⟩
  | cons c t ih =>
      obtain ⟨here, inside⟩ := Text.only_cons.mp inside
      rw [splitHost]
      split
      · next stops =>
          have colon : c = ':' := (stops.resolve_left (by simpa using here)).1
          exact ⟨[], c :: t, rfl, rfl, .inr ⟨t, by rw [colon], inside⟩⟩
      · obtain ⟨host, left, split, whole, cases⟩ :=
          ih inside (if c = '[' then true else if c = ']' then false else bracket)
        rw [split]
        exact ⟨c :: host, left, rfl, by rw [whole]; rfl, cases⟩

theorem server_suffix (t : Text) : ((splitLogin? true t).getD ([], t)).2 <:+ t := by
  unfold splitLogin?
  dsimp only
  split
  · exact List.drop_suffix _ t
  · exact List.suffix_rfl

theorem server_concat {c : Char} (other : c ≠ '@') {t : Text} (inside : Within (t ++ [c])) :
    ∃ s, ((splitLogin? true (t ++ [c])).getD ([], t ++ [c])).2 = s ++ [c] := by
  unfold splitLogin?
  rw [takeWhile_of_within inside]
  dsimp only
  split
  · have last : (t ++ [c]).reverse.takeWhile (· ≠ '@') = c :: t.reverse.takeWhile (· ≠ '@') := by
      rw [List.reverse_append, List.reverse_singleton, List.singleton_append,
        List.takeWhile_cons_of_pos (by simpa using other)]
    rw [last, List.length_append, List.length_singleton, List.length_cons, Nat.add_sub_add_right,
      Option.getD_some, List.drop_append_of_le_length (Nat.sub_le _ _)]
    exact ⟨_, rfl⟩
  · exact ⟨t, rfl⟩

end

section
variable {scheme : Text}

theorem readAuthority_special (special : isSpecialScheme scheme = true) (t : Text) :
    readAuthority scheme t =
      let cut := (splitLogin? true t).getD ([], t)
      let parts := splitHost true false cut.2
      if parts.1.isEmpty then .error .emptyHost
      else (Host.parse parts.1).bind fun host => (splitPort scheme parts.2).map fun port =>
        (⟨(readLogin cut.1).1, (readLogin cut.1).2, host, port.1⟩, port.2) := by
  unfold readAuthority
  simp only [special, Bool.not_true, Bool.false_and, Bool.not_false, Bool.and_true, if_true]
  split
  · rfl
  · cases Host.parse (splitHost true false ((splitLogin? true t).getD ([], t)).2).1 with
    | error f => rfl
    | ok host => cases splitPort scheme _ <;> rfl

theorem splitPort_colon {digits rest : Text} (inside : Within digits) (outside : Beyond rest) :
    splitPort scheme (':' :: (digits ++ rest)) = (readPort scheme digits).map fun port => (port, rest) := by
  simp only [splitPort, takeWhile_within inside outside, List.drop_left]

theorem splitPort_of_within {digits : Text} (inside : Within digits) :
    splitPort scheme (':' :: digits) = (readPort scheme digits).map fun port => (port, []) := by
  have nothing : Beyond [] := fun _ first => nomatch first
  conv_lhs => rw [← List.append_nil digits]
  exact splitPort_colon inside nothing

theorem splitPort_beyond {rest : Text} (outside : Beyond rest) :
    splitPort scheme rest = .ok (none, rest) := by
  unfold splitPort
  split
  · next digits => exact absurd (outside ':' rfl) (by decide)
  · rfl

theorem readAuthority_append {head rest : Text} (special : isSpecialScheme scheme = true)
    (inside : Within head) (outside : Beyond rest) : readAuthority scheme (head ++ rest) =
      (readAuthority scheme head).map fun read => (read.1, rest) := by
  have nothing : Beyond [] := fun _ first => nomatch first
  have server : Within ((splitLogin? true head).getD ([], head)).2 :=
    fun c ends => inside c ((server_suffix head).subset ends)
  have cut : (splitLogin? true (head ++ rest)).getD ([], head ++ rest) =
      (((splitLogin? true head).getD ([], head)).1, ((splitLogin? true head).getD ([], head)).2 ++ rest) := by
    rw [splitLogin?_append inside outside]
    cases splitLogin? true head <;> rfl
  obtain ⟨host, left, split, -, port⟩ := splitHost_of_within server false
  have read : splitPort scheme (left ++ rest) =
      (splitPort scheme left).map fun read => (read.1, rest) := by
    rcases port with rfl | ⟨digits, rfl, within⟩
    · rw [List.nil_append, splitPort_beyond outside, splitPort_beyond nothing]
      rfl
    · rw [List.cons_append, splitPort_colon within outside, splitPort_of_within within]
      cases readPort scheme digits <;> rfl
  rw [readAuthority_special special, readAuthority_special special, cut]
  dsimp only
  rw [splitHost_append server outside, split]
  dsimp only
  rw [read]
  split
  · rfl
  · cases Host.parse host with
    | error f => rfl
    | ok host => cases splitPort scheme left <;> rfl

theorem readPort_concat {c : Char} (digit : Text.digits?.digit? 10 c = none) (digits : Text) :
    readPort scheme (digits ++ [c]) = .error .badPort := by
  have refused : Text.digits? 10 (digits ++ [c]) = none := by
    rw [Text.digits?, List.foldl_append, List.foldl_cons, List.foldl_nil, digit]
    simp only [Option.map_none, Option.bind_fun_none]
  have some : (digits ++ [c]).isEmpty = false := by simp
  rw [readPort, some, refused]
  rfl

/-- No authority ends in a blank. -/
theorem readAuthority_concat {c : Char} (special : isSpecialScheme scheme = true)
    (edge : isEdge c = true) {head : Text} (inside : Within (head ++ [c])) (read : Authority × Text) :
    readAuthority scheme (head ++ [c]) ≠ .ok read := by
  have digit : Text.digits?.digit? 10 c = none :=
    of_edge (P := fun c => Text.digits?.digit? 10 c = none) (by decide) edge
  have server : Within ((splitLogin? true (head ++ [c])).getD ([], head ++ [c])).2 :=
    fun c ends => inside c ((server_suffix _).subset ends)
  obtain ⟨s, ends⟩ := server_concat (ne_of_edge edge rfl : c ≠ '@') inside
  obtain ⟨host, left, split, whole, port⟩ := splitHost_of_within server false
  rw [ends] at whole
  rw [readAuthority_special special]
  dsimp only
  rw [split]
  dsimp only
  split
  · exact nofun
  · rcases port with rfl | ⟨digits, rfl, within⟩
    · rw [List.append_nil] at whole
      rw [← whole]
      intro ok
      cases parsed : Host.parse (s ++ [c]) with
      | error f =>
          rw [parsed] at ok
          cases ok
      | ok h => exact Host.parse_concat edge s h parsed
    · obtain ⟨start, rfl⟩ : ∃ start, digits = start ++ [c] := by
        have last := congrArg List.getLast? whole
        rcases List.eq_nil_or_concat' digits with rfl | ⟨start, d, rfl⟩
        · rw [List.getLast?_concat, List.getLast?_concat, Option.some_inj] at last
          exact absurd last (ne_of_edge edge rfl)
        · rw [← List.cons_append, ← List.append_assoc, List.getLast?_concat, List.getLast?_concat,
            Option.some_inj] at last
          exact ⟨start, by rw [last]⟩
      rw [splitPort_of_within within, readPort_concat digit]
      cases Host.parse host <;> exact nofun

end

/-- What of a path, a query and a fragment is the path. -/
def beforeQuery (t : Text) : Text :=
  t.takeWhile fun c => c ≠ '?' && c ≠ '#'

theorem beforeQuery_append {path rest : Text} (noQuery : '?' ∉ path) (noFragment : '#' ∉ path)
    (stops : ∀ c ∈ rest.head?, c = '?' ∨ c = '#') : beforeQuery (path ++ rest) = path := by
  have kept : ∀ c ∈ path, (decide (c ≠ '?') && decide (c ≠ '#')) = true := by
    intro c inside
    rw [Bool.and_eq_true, decide_eq_true_eq, decide_eq_true_eq]
    constructor
    · rintro rfl
      exact noQuery inside
    · rintro rfl
      exact noFragment inside
  rw [beforeQuery, List.takeWhile_append_of_pos kept]
  cases rest with
  | nil => exact List.append_nil _
  | cons c rest =>
      rw [List.takeWhile_cons_of_neg, List.append_nil]
      rcases stops c rfl with rfl | rfl <;> decide

theorem beforeQuery_eq_self {path : Text} (noQuery : '?' ∉ path) (noFragment : '#' ∉ path) :
    beforeQuery path = path := by
  have alone := beforeQuery_append noQuery noFragment (fun _ first => nomatch first : ∀ c ∈ [].head?, _)
  rwa [List.append_nil] at alone

theorem beforeQuery_of_mem {path : Text} {c : Char} (mark : c = '?' ∨ c = '#') (inside : c ∈ path)
    (rest : Text) : beforeQuery (path ++ rest) = beforeQuery path := by
  rw [beforeQuery, List.takeWhile_append, if_neg]
  · rfl
  · intro full
    have all := (List.takeWhile_prefix fun c => decide (c ≠ '?') && decide (c ≠ '#')).eq_of_length full
    rw [← all] at inside
    have kept := List.mem_takeWhile_imp (p := fun c => decide (c ≠ '?') && decide (c ≠ '#')) inside
    rcases mark with rfl | rfl <;> exact absurd kept (by decide)

theorem beforeQuery_cut {before after : Text} (noFragment : '#' ∉ before)
    (fragment : ∀ c ∈ after.head?, c = '#') : beforeQuery (before ++ after) =
      ((Text.cutAt? '?' before).map Prod.fst).getD before := by
  cases cut : Text.cutAt? '?' before with
  | none =>
      have noQuery := Text.cutAt?_eq_none.mp cut
      exact beforeQuery_append noQuery noFragment fun c first => .inr (fragment c first)
  | some parts =>
      obtain ⟨rfl, noQuery⟩ := Text.cutAt?_eq_some.mp cut
      rw [List.append_assoc]
      refine beforeQuery_append noQuery (fun inside => noFragment (List.mem_append_left _ inside)) ?_
      exact fun c first => .inl (Option.some.inj first).symm

theorem splitQuery_fst (special : Bool) (t : Text) : (splitQuery special t).1 = beforeQuery t := by
  unfold splitQuery
  cases cut : Text.cutAt? '#' t with
  | none =>
      have nothing : ∀ c ∈ ([] : Text).head?, c = '#' := fun _ first => nomatch first
      have path := beforeQuery_cut (Text.cutAt?_eq_none.mp cut) nothing
      rw [List.append_nil] at path
      rw [path]
      dsimp only
      cases Text.cutAt? '?' t <;> rfl
  | some parts =>
      obtain ⟨rfl, noFragment⟩ := Text.cutAt?_eq_some.mp cut
      have mark : ∀ c ∈ ('#' :: parts.2).head?, c = '#' := fun c first => (Option.some.inj first).symm
      rw [beforeQuery_cut noFragment mark]
      dsimp only
      cases Text.cutAt? '?' parts.1 <;> rfl

theorem withAuthority_append {scheme head rest : Text} (special : isSpecialScheme scheme = true)
    (inside : Within head) (outside : Beyond rest) : withAuthority scheme (head ++ rest) =
      (readAuthority scheme head).map fun read =>
        ⟨scheme, some read.1, .segments (segmentsAfter scheme (beforeQuery rest)),
          (splitQuery true rest).2.1, (splitQuery true rest).2.2⟩ := by
  rw [withAuthority, readAuthority_append special inside outside]
  cases readAuthority scheme head with
  | error f => rfl
  | ok read =>
      rw [← splitQuery_fst true, special]
      rfl

/-- A segment that is no dots and is written as it is. -/
def Plain (segment : Text) : Prop :=
  Text.Only Char.isAlphanum segment

theorem toNat_of_isAlphanum {c : Char} (h : c.isAlphanum = true) : c.toNat < 0x80 := by
  have below {last : UInt32} (small : last.toNat < 0x80) (most : c.val ≤ last) : c.toNat < 0x80 :=
    Nat.lt_of_le_of_lt (UInt32.le_iff_toNat_le.mp most) small
  rcases (Bool.or_eq_true _ _).mp h with letter | digit
  · rcases (Bool.or_eq_true _ _).mp letter with upper | lower
    · exact below (by decide) (of_decide_eq_true upper).2
    · exact below (by decide) (of_decide_eq_true ((Bool.and_eq_true _ _).mp lower).2)
  · exact below (by decide) (of_decide_eq_true ((Bool.and_eq_true _ _).mp digit).2)

theorem of_isAlphanum {P : Char → Prop}
    (all : ∀ n < 0x80, (Char.ofNat n).isAlphanum = true → P (Char.ofNat n)) {c : Char}
    (h : c.isAlphanum = true) : P c := by
  have here := all c.toNat (toNat_of_isAlphanum h)
  rw [Char.ofNat_toNat] at here
  exact here h

theorem step_of_plain {segment : Text} (plain : Plain segment) (before : List Text) (isLast : Bool) :
    step false before segment isLast = segment :: before := by
  have same : Percent.encode Percent.inPath segment = segment := by
    refine (List.flatMap_congr fun c inside => ?_).trans (List.flatMap_singleton' segment)
    have kept : (decide (0x20 ≤ c.toNat) && decide (c.toNat < 0x7F) && !Percent.inPath c) = true :=
      of_isAlphanum (P := fun c => (decide (0x20 ≤ c.toNat) && decide (c.toNat < 0x7F) &&
        !Percent.inPath c) = true) (by decide) (plain c inside)
    exact if_pos kept
  -- whatever stands for dots has a dot or a percent sign in it
  have other {t : Text} {c : Char} (inside : c ∈ t) (mark : c.isAlphanum = false) :
      Text.lowerAscii segment ≠ t := by
    rintro rfl
    obtain ⟨d, here, rfl⟩ := List.mem_map.mp inside
    have lower : d.toLower.isAlphanum = true :=
      of_isAlphanum (P := fun c => c.toLower.isAlphanum = true) (by decide) (plain d here)
    rw [lower] at mark
    cases mark
  have dots : isDoubleDot segment = false := by
    simp only [isDoubleDot, Bool.or_eq_false_iff, decide_eq_false_iff_not]
    have two : Text.lowerAscii segment ≠ ".." := other (c := '.') (by decide) (by decide)
    have dotEscape : Text.lowerAscii segment ≠ ".%2e" := other (c := '.') (by decide) (by decide)
    have escapeDot : Text.lowerAscii segment ≠ "%2e." := other (c := '.') (by decide) (by decide)
    have escapes : Text.lowerAscii segment ≠ "%2e%2e" := other (c := '%') (by decide) (by decide)
    exact ⟨⟨⟨two, dotEscape⟩, escapeDot⟩, escapes⟩
  have dot : isSingleDot segment = false := by
    simp only [isSingleDot, Bool.or_eq_false_iff, decide_eq_false_iff_not]
    have escape : Text.lowerAscii segment ≠ "%2e" := other (c := '%') (by decide) (by decide)
    refine ⟨?_, escape⟩
    rintro rfl
    exact absurd (plain '.' (by decide)) (by decide)
  simp only [step, dots, dot, same, Bool.false_eq_true, if_false, Bool.false_and]

theorem walk_of_plain {a b : Text} (hereA : Plain a) (hereB : Plain b) (before l : List Text) :
    ∃ kept, walk false before (l ++ [a, b]) = kept ++ [a, b] := by
  induction l generalizing before with
  | nil =>
      refine ⟨before.reverse, ?_⟩
      rw [List.nil_append, walk, walk, step_of_plain hereA, step_of_plain hereB]
      · simp
      · exact nofun
  | cons s l ih =>
      obtain ⟨kept, same⟩ := ih (step false before s false)
      refine ⟨kept, ?_⟩
      rw [List.cons_append, walk, same]
      simp

theorem segmentsAfter_append {scheme a b : Text} (special : isSpecialScheme scheme = true)
    (named : scheme ≠ "file") (hereA : Plain a) (hereB : Plain b) (path : Text) :
    ∃ kept, segmentsAfter scheme (path ++ '/' :: (a ++ '/' :: b)) = kept ++ [a, b] := by
  have unslashed {t : Text} (plain : Plain t) : ∀ c ∈ t, isSlash true c = false := by
    intro c inside
    have here := plain c inside
    simp only [isSlash, Bool.true_and, Bool.or_eq_false_iff, decide_eq_false_iff_not]
    constructor <;> (rintro rfl; exact absurd here (by decide))
  have last : (a ++ '/' :: b).splitOnP (isSlash true) = [a, b] := by
    rw [List.splitOnP_append_cons _ _ rfl, List.splitOnP_eq_singleton (unslashed hereA),
      List.splitOnP_eq_singleton (unslashed hereB)]
    rfl
  have rooted (l : List Text) {t : Text} (split : t.splitOnP (isSlash true) = l ++ [a, b]) :
      ∃ kept, segments scheme t = kept ++ [a, b] := by
    rw [segments, special, split, decide_eq_false named]
    exact walk_of_plain hereA hereB [] l
  unfold segmentsAfter
  rw [special]
  cases path with
  | nil => exact rooted [] last
  | cons c path =>
      dsimp only [List.cons_append]
      split
      · apply rooted (path.splitOnP (isSlash true))
        rw [List.splitOnP_append_cons _ _ rfl, last]
      · apply rooted ((c :: path).splitOnP (isSlash true))
        rw [← List.cons_append, List.splitOnP_append_cons _ _ rfl, last]

end EndpointProfile.Url
