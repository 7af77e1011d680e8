import EndpointProfile.Proofs.Text.Pieces
import EndpointProfile.Proofs.Text.Utf8
import EndpointProfile.Url.Parser

/-! No host ends in a blank: what a text ends in stays at its end on the way to a host, through the
escapes, the folding and the composition of a name, and no label of a name may hold a blank. -/
namespace EndpointProfile

namespace Utf8

theorem getLast?_utf8EncodeChar {c : Char} (h : ¬ c.toNat < 0x80) :
    ∃ y < 64, (String.utf8EncodeChar c).getLast? = some (UInt8.ofNat (0x80 + y)) := by
  rw [utf8EncodeChar_eq, if_neg h]
  split_ifs
  · exact ⟨c.toNat % 64 / 1, by omega, rfl⟩
  · exact ⟨c.toNat % 64 ^ 2 % 64 / 1, by omega, rfl⟩
  · exact ⟨c.toNat % 64 ^ 3 % 64 ^ 2 % 64 / 1, by omega, rfl⟩

theorem toNat_ofNat_small {n : Nat} (h : n < 0x80) : (UInt8.ofNat n).toNat = n :=
  UInt8.toNat_ofNat_of_lt' (by rw [UInt8.size]; omega)

theorem eq_concat_of_encode {c : Char} (ascii : c.toNat < 0x80) {t : Text} {bytes : Bytes}
    (h : encode t = bytes ++ String.utf8EncodeChar c) : ∃ s, t = s ++ [c] := by
  rw [utf8EncodeChar_eq, if_pos ascii] at h
  rcases List.eq_nil_or_concat' t with rfl | ⟨s, d, rfl⟩
  · simp [encode] at h
  · refine ⟨s, ?_⟩
    have some : String.utf8EncodeChar d ≠ [] := by
      rw [utf8EncodeChar_eq]
      split_ifs <;> exact List.cons_ne_nil _ _
    have last := congrArg List.getLast? h
    simp only [encode, List.flatMap_append, List.flatMap_cons, List.flatMap_nil, List.append_nil,
      List.getLast?_append_of_ne_nil _ some, List.getLast?_concat] at last
    by_cases small : d.toNat < 0x80
    · rw [utf8EncodeChar_eq, if_pos small, List.getLast?_singleton] at last
      have same := congrArg UInt8.toNat (Option.some.inj last)
      rw [toNat_ofNat_small ascii, toNat_ofNat_small small] at same
      rw [Char.toNat_inj.mp same]
    · obtain ⟨y, less, other⟩ := getLast?_utf8EncodeChar small
      rw [other] at last
      have same := congrArg UInt8.toNat (Option.some.inj last)
      rw [toNat_ofNat_small ascii, toNat_sextet less] at same
      omega

end Utf8

namespace Percent

theorem byte?_eq_none {c : Char} (h : Text.digits?.digit? 16 c = none) (a : Char) :
    byte? a c = none := by
  have digits : Text.digits? 16 [a, c] = none := by
    simp only [Text.digits?, List.foldl_cons, List.foldl_nil, h, Option.map_none,
      Option.bind_fun_none]
  rw [byte?, digits]
  rfl

theorem decodeSome_concat {c : Char} (h : Text.digits?.digit? 16 c = none)
    (chosen : UInt8 → Bool) (t : Text) :
    ∃ bytes, decodeSome chosen (t ++ [c]) = bytes ++ String.utf8EncodeChar c := by
  have alone : decodeSome chosen [c] = String.utf8EncodeChar c := by simp [decodeSome]
  fun_induction decodeSome chosen t with
  | case1 a b t byte read ih =>
      obtain ⟨bytes, same⟩ := ih
      refine ⟨byte :: bytes, ?_⟩
      simp only [List.cons_append, decodeSome, read, same]
  | case2 a b t read ih =>
      obtain ⟨bytes, same⟩ := ih
      refine ⟨String.utf8EncodeChar '%' ++ bytes, ?_⟩
      rw [List.append_assoc, ← same]
      simp only [List.cons_append, decodeSome, read]
  | case3 d t short ih =>
      obtain ⟨bytes, same⟩ := ih
      refine ⟨String.utf8EncodeChar d ++ bytes, ?_⟩
      rw [List.append_assoc, ← same, List.cons_append]
      by_cases percent : d = '%'
      · subst percent
        match t with
        | [] => simp [decodeSome]
        | [a] => simp [decodeSome, byte?_eq_none h]
        | a :: b :: t => exact absurd rfl (short a b t rfl)
      · rw [decodeSome]
        exact fun a b rest same => absurd same percent
  | case4 => exact ⟨[], alone⟩

end Percent

namespace Text

/-- A character that is no mark composes with none before it. -/
theorem pair?_of_low {c : Char} (low : c.toNat < 0x300) (d : Char) : pair? d c = none := by
  rw [pair?]
  exact if_pos low

theorem combiningClass_of_low {c : Char} (low : c.toNat < 0x300) : combiningClass c = 0 :=
  if_pos low

theorem composeAfter_concat {c : Char} (low : c.toNat < 0x300) (start : Char) (marks t : Text) :
    ∃ s, composeAfter start marks (t ++ [c]) = s ++ [c] := by
  induction t generalizing start marks with
  | nil =>
      refine ⟨start :: marks.reverse, ?_⟩
      rw [List.nil_append, composeAfter.eq_def]
      simp only [pair?_of_low low, combiningClass_of_low low, ite_self, if_true]
      rfl
  | cons d t ih =>
      rw [List.cons_append, composeAfter.eq_def]
      dsimp only
      split
      · exact ih _ _
      · split
        · obtain ⟨s, same⟩ := ih d []
          exact ⟨start :: marks.reverse ++ s, by rw [same, List.append_assoc]⟩
        · exact ih _ _

theorem canonicalOrder_concat {c : Char} (low : c.toNat < 0x300) (t : Text) :
    canonicalOrder (t ++ [c]) = canonicalOrder t ++ [c] := by
  have stays (before : Text) : place c before = c :: before := by
    cases before with
    | nil => rfl
    | cons d before =>
        rw [place, combiningClass_of_low low]
        exact if_neg fun h => Nat.lt_irrefl 0 h.1
  rw [canonicalOrder, List.foldl_append, List.foldl_cons, List.foldl_nil, stays, List.reverse_cons]
  rfl

theorem composed_concat {c : Char} (low : c.toNat < 0xC0) (t : Text) :
    ∃ s, composed (t ++ [c]) = s ++ [c] := by
  have low' : c.toNat < 0x300 := by omega
  have apart : decomposeChar c = [c] := if_pos low
  rw [composed, List.flatMap_append, List.flatMap_singleton, apart, canonicalOrder_concat low']
  cases canonicalOrder (t.flatMap decomposeChar) with
  | nil => exact ⟨[], rfl⟩
  | cons d rest => exact composeAfter_concat low' d [] rest

end Text

namespace Punycode

theorem readNumbers_eq_none {c : Char} (h : digit? c = none) {t : Text} (inside : c ∈ t)
    (r : Reader) : readNumbers r t = none := by
  induction t generalizing r with
  | nil => cases inside
  | cons d t ih =>
      rw [readNumbers]
      rcases List.mem_cons.mp inside with rfl | inside
      · rw [h]
      · cases digit? d with
        | none => rfl
        | some n =>
            dsimp only
            split
            · cases r.finish? (r.value + n * r.weight) with
              | none => rfl
              | some r => exact ih inside r
            · exact ih inside _

/-- The last character of a label is a digit or the hyphen before the digits. -/
theorem decode?_concat {c : Char} (h : digit? c = none) (other : c ≠ '-') (t : Text) :
    decode? (t ++ [c]) = none := by
  have inside : c ∈ ((t ++ [c]).reverse.takeWhile (· ≠ '-')).reverse := by
    rw [List.mem_reverse, List.reverse_append, List.reverse_singleton, List.singleton_append,
      List.takeWhile_cons_of_pos (by simpa using other)]
    exact List.mem_cons_self
  rw [decode?]
  split
  · exact readNumbers_eq_none h (by simp) _
  · split
    · rfl
    · exact readNumbers_eq_none h inside _

end Punycode

namespace Url

/-- What holds of the first 33 characters holds of the blanks at the ends of an address. -/
theorem of_edge {P : Char → Prop} (all : ∀ n < 0x21, P (Char.ofNat n)) {c : Char}
    (edge : isEdge c = true) : P c := by
  have low : c.toNat < 0x21 := Nat.lt_succ_of_le (of_decide_eq_true edge)
  rw [← Char.ofNat_toNat c]
  exact all c.toNat low

theorem ne_of_edge {c d : Char} (edge : isEdge c = true) (other : isEdge d = false) : c ≠ d := by
  rintro rfl
  rw [edge] at other
  cases other

end Url

theorem mapM_concat_eq_some {α β : Type} {f : α → Option β} {l : List α} {a : α} {r : List β}
    (h : (l ++ [a]).mapM f = some r) : ∃ s b, f a = some b ∧ r = s ++ [b] := by
  rw [List.mapM_append, List.mapM_cons, List.mapM_nil] at h
  cases start : l.mapM f with
  | none => simp [start] at h
  | some s =>
      cases last : f a with
      | none => simp [start, last] at h
      | some b =>
          simp only [start, last, Option.pure_def, Option.bind_eq_bind, Option.bind_some] at h
          exact ⟨s, b, rfl, (Option.some.inj h).symm⟩

namespace Domain

variable {c : Char} (edge : Url.isEdge c = true)
include edge

theorem fold?_of_edge : fold? c = some [c] := by
  have low : c.toNat < 0x80 := Nat.lt_of_le_of_lt (of_decide_eq_true edge) (by decide)
  have lower : c.toLower = c := Url.of_edge (P := fun c => c.toLower = c) (by decide) edge
  rw [fold?, if_pos low, lower]

theorem fold_concat {t folded : Text} (h : fold (t ++ [c]) = some folded) :
    ∃ s, folded = s ++ [c] := by
  have low : c.toNat < 0xC0 := Nat.lt_of_le_of_lt (of_decide_eq_true edge) (by decide)
  obtain ⟨parts, read, rfl⟩ := Option.map_eq_some_iff.mp h
  obtain ⟨start, last, kept, rfl⟩ := mapM_concat_eq_some read
  rw [fold?_of_edge edge] at kept
  cases kept
  rw [List.flatten_append, List.flatten_singleton]
  exact Text.composed_concat low _

theorem any_isForbidden (t : Text) : (t ++ [c]).any isForbidden = true := by
  have forbidden : isForbidden c = true := by
    rw [isForbidden, decide_eq_true (of_decide_eq_true edge)]
    rfl
  rw [List.any_append, List.any_cons, forbidden, Bool.true_or, Bool.or_true]

/-- No label ends in a blank, neither as it is nor in Punycode. -/
theorem label?_concat (t : Text) : label? (t ++ [c]) = none := by
  have digit : Punycode.digit? c = none :=
    Url.of_edge (P := fun c => Punycode.digit? c = none) (by decide) edge
  have forbidden := any_isForbidden edge t
  rw [label?]
  split
  · cases marked : Text.dropStart? punycodeMark (t ++ [c]) with
    | none => rfl
    | some code =>
        obtain ⟨start, rfl⟩ : ∃ start, code = start ++ [c] := by
          have last := congrArg List.getLast? (Text.dropStart?_eq_some.mp marked)
          rw [List.getLast?_concat] at last
          rcases List.eq_nil_or_concat' code with rfl | ⟨start, d, rfl⟩
          · exact absurd (Option.some.inj last) (Url.ne_of_edge edge rfl)
          · rw [← List.append_assoc, List.getLast?_concat, Option.some_inj] at last
            exact ⟨start, by rw [last]⟩
        simp only [Punycode.decode?_concat digit (Url.ne_of_edge edge rfl : c ≠ '-'), ite_self]
  · have fits : labelFits (t ++ [c]) = false := by
      simp only [labelFits, forbidden, Bool.true_or, Bool.not_true, Bool.false_and]
    simp only [fits, Bool.false_and, Bool.false_eq_true, if_false]

theorem toAscii?_concat (t : Text) : toAscii? (t ++ [c]) = none := by
  rw [toAscii?]
  split
  · exact if_pos (any_isForbidden edge t)
  · cases read : fold (t ++ [c]) with
    | none => rfl
    | some folded =>
        obtain ⟨s, rfl⟩ := fold_concat edge read
        have free : '.' ∉ [c] := mt List.mem_singleton.mp (Url.ne_of_edge edge rfl).symm
        obtain ⟨pieces, last, -, split⟩ := Text.splitOn_append free s
        have refused : ((s ++ [c]).splitOn '.').mapM label? = none := by
          rw [split, Option.eq_none_iff_forall_ne_some]
          intro labels read
          obtain ⟨-, label, kept, -⟩ := mapM_concat_eq_some read
          rw [label?_concat edge] at kept
          cases kept
        rw [Option.bind_some, refused]
        rfl

end Domain

namespace Url.Host

theorem bracketed?_concat {c : Char} (edge : isEdge c = true) (t : Text) (host : Host) :
    bracketed? (t ++ [c]) ≠ some (.ok host) := by
  have open_ended (inner : Text) : Text.dropEnd? [']'] (inner ++ [c]) = none := by
    rw [Text.dropEnd?_eq_none]
    rintro ⟨rest, same⟩
    have last := congrArg List.getLast? same
    rw [List.getLast?_concat, List.getLast?_concat, Option.some_inj] at last
    exact ne_of_edge edge rfl last.symm
  intro read
  unfold bracketed? at read
  split at read
  · next inner whole =>
      cases t with
      | nil => exact ne_of_edge edge rfl (List.cons.inj whole).1
      | cons d t =>
          have rest : t ++ [c] = inner := (List.cons.inj whole).2
          rw [← rest, open_ended] at read
          cases read
  · cases read

theorem parse_concat {c : Char} (edge : isEdge c = true) (t : Text) (host : Host) :
    parse (t ++ [c]) ≠ .ok host := by
  have digit : Text.digits?.digit? 16 c = none :=
    of_edge (P := fun c => Text.digits?.digit? 16 c = none) (by decide) edge
  have ascii : c.toNat < 0x80 := Nat.lt_of_le_of_lt (of_decide_eq_true edge) (by decide)
  have refused : (Utf8.decode? (Percent.decode (t ++ [c]))).bind Domain.toAscii? = none := by
    cases read : Utf8.decode? (Percent.decode (t ++ [c])) with
    | none => rfl
    | some name =>
        obtain ⟨bytes, same⟩ := Percent.decodeSome_concat digit (fun _ => true) t
        obtain ⟨s, rfl⟩ := Utf8.eq_concat_of_encode ascii
          ((Utf8.decode?_eq_some.mp read).symm.trans same)
        exact Domain.toAscii?_concat edge s
  intro read
  unfold parse at read
  split at read
  · next bracketed =>
      rw [read] at bracketed
      exact bracketed?_concat edge t host bracketed
  · rw [refused] at read
    cases read

end Url.Host

end EndpointProfile
