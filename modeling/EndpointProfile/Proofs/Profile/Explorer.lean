import EndpointProfile.Proofs.Profile.Provenance
import EndpointProfile.Proofs.Url.Extension

/-! Where the pages of transactions lead. -/
namespace EndpointProfile

namespace Check

theorem addressFault?_of_address? {t : Text} (fits : address? t = none) : addressFault? t = none := by
  simp only [address?, Option.orElse_eq_orElse, Option.orElse_eq_or, Option.or_eq_none_iff,
    Option.map_eq_none_iff] at fits
  exact fits.2.2

theorem exists_of_addressFault? {t : Text} (fits : addressFault? t = none) :
    ∃ u, Url.parse t = .ok u ∧ Url.IsWeb u.scheme := by
  unfold addressFault? at fits
  cases read : Url.parse t with
  | error f =>
      rw [read] at fits
      cases fits
  | ok u =>
      rw [read] at fits
      dsimp only at fits
      split at fits
      · cases fits
      · next web =>
          rw [not_and_or, not_not, not_not] at web
          exact ⟨u, rfl, web⟩

theorem isAlphanum_of_isHexDigit {c : Char} (digit : isHexDigit c = true) : c.isAlphanum = true := by
  rw [isHexDigit, Bool.or_eq_true, Bool.or_eq_true, Bool.and_eq_true, Bool.and_eq_true] at digit
  refine (Bool.or_eq_true _ _).mpr ?_
  rcases digit with (decimal | ⟨low, high⟩) | ⟨low, high⟩
  · exact .inr decimal
  · have below : c ≤ 'z' := Char.le_trans (of_decide_eq_true high) (by decide)
    have lower : c.isLower = true := (Bool.and_eq_true _ _).mpr ⟨low, decide_eq_true below⟩
    exact .inl ((Bool.or_eq_true _ _).mpr (.inr lower))
  · have below : c ≤ 'Z' := Char.le_trans (of_decide_eq_true high) (by decide)
    have upper : c.isUpper = true := decide_eq_true ⟨of_decide_eq_true low, below⟩
    exact .inl ((Bool.or_eq_true _ _).mpr (.inl upper))

theorem plain_of_isTransactionHash {hash : Text} (proper : isTransactionHash hash = true) :
    Url.Plain hash := by
  unfold isTransactionHash at proper
  split at proper
  · next digits =>
      have hex := List.all_eq_true.mp ((Bool.and_eq_true _ _).mp proper).2
      rw [Url.Plain, Text.only_cons, Text.only_cons]
      exact ⟨rfl, rfl, fun c here => isAlphanum_of_isHexDigit (hex c here)⟩
  · cases proper

end Check

/-- Joining replaces the slashes between two parts that are there. -/
theorem joinPath_eq_extended {base path : Text} (someBase : base ≠ []) (somePath : path ≠ []) :
    joinPath base path = Url.extended base (path.dropWhile (· = '/')) := by
  unfold joinPath
  rw [if_neg (mt List.isEmpty_iff.mp somePath), if_neg (mt List.isEmpty_iff.mp someBase)]
  exact List.append_assoc _ _ _

namespace Profile

variable {p : Profile}

theorem valueFault?_of_valid (valid : p.fault? = none) (k : Key) :
    valueFault? k (p.get k).unquoted = none :=
  Option.map_eq_none_iff.mp (List.findSome?_eq_none_iff.mp valid k (Key.mem_all k))

theorem exists_explorer (valid : p.fault? = none) (n : Network) :
    ∃ u, Url.parse (p.explorerBase n) = .ok u ∧ Url.IsWeb u.scheme := by
  have fits := valueFault?_of_valid valid n.explorerKey
  have kind : n.explorerKey.kind = .explorerAddress := by cases n <;> rfl
  unfold valueFault? at fits
  rw [kind] at fits
  exact Check.exists_of_addressFault? (Check.addressFault?_of_address? (Option.map_eq_none_iff.mp fits))

variable {n : Network}

/-- Where a transaction is found below an explorer. -/
def transactionPath (hash : Text) : Text :=
  ['t', 'x'] ++ '/' :: hash

theorem transactionAddress_eq_ok (valid : p.fault? = none) (evm : n.isEvm = true) {hash : Text}
    (proper : Check.isTransactionHash hash = true) :
    p.transactionAddress n hash = .ok (Url.extended (p.explorerBase n) (transactionPath hash)) := by
  obtain ⟨u, read, -⟩ := exists_explorer valid n
  have some : p.explorerBase n ≠ [] := by
    intro none
    rw [none] at read
    cases read
  have path : ("tx/" : Text) ++ hash = transactionPath hash := rfl
  unfold transactionAddress
  rw [if_pos evm, Check.transactionHash?, if_pos proper, path]
  dsimp only
  rw [joinPath_eq_extended some (show transactionPath hash ≠ [] from List.cons_ne_nil _ _)]
  rfl

theorem plain_tx : Url.Plain ['t', 'x'] := by
  simp [Url.Plain]

theorem solid_transactionPath {hash : Text} (proper : Check.isTransactionHash hash = true) :
    Url.Solid (transactionPath hash) :=
  Url.solid_segments plain_tx (Check.plain_of_isTransactionHash proper)

/-- An explorer has a page for each transaction, at its own place and under the path of the
transaction, if it is extensible. No other explorer has. -/
theorem transactionAddress_leads_iff (valid : p.fault? = none) (evm : n.isEvm = true) :
    (∀ hash, Check.isTransactionHash hash = true → ∃ page, p.transactionAddress n hash = .ok page ∧
      Url.Leads (p.explorerBase n) page ("/tx/" ++ hash)) ↔ Url.Extensible (p.explorerBase n) := by
  obtain ⟨u, read, web⟩ := exists_explorer valid n
  have path (hash : Text) : ("/tx/" : Text) ++ hash = '/' :: transactionPath hash := rfl
  constructor
  · intro found
    by_contra other
    have leads {hash : Text} (proper : Check.isTransactionHash hash = true) :
        Url.Leads (p.explorerBase n) (Url.extended (p.explorerBase n) (transactionPath hash))
          ('/' :: transactionPath hash) := by
      obtain ⟨page, same, leads⟩ := found hash proper
      rw [transactionAddress_eq_ok valid evm proper] at same
      obtain rfl := Except.ok.inj same
      rw [path] at leads
      exact leads
    -- two hashes would have one page
    have zeros : Check.isTransactionHash ('0' :: 'x' :: List.replicate 64 '0') = true := by decide
    have ones : Check.isTransactionHash ('0' :: 'x' :: List.replicate 64 '1') = true := by decide
    have one := Url.eq_of_leads read web other (List.cons_ne_nil _ _) (solid_transactionPath zeros)
      (solid_transactionPath ones) rfl (leads zeros) (leads ones)
    exact absurd one (by decide)
  · intro extensible hash proper
    refine ⟨_, transactionAddress_eq_ok valid evm proper, ?_⟩
    rw [path]
    exact Url.leads_of_extensible read web extensible plain_tx
      (Check.plain_of_isTransactionHash proper)

def withValue (p : Profile) (k : Key) (l : Literal) : Profile :=
  ⟨Function.update p.get k l⟩

theorem get_withValue (p : Profile) (k : Key) (l : Literal) :
    (p.withValue k l).get = Function.update p.get k l := rfl

theorem valid_withValue (valid : p.fault? = none) {k : Key} {l : Literal}
    (fits : valueFault? k l.unquoted = none) : (p.withValue k l).fault? = none := by
  refine List.findSome?_eq_none_iff.mpr fun j _ => Option.map_eq_none_iff.mpr ?_
  by_cases same : j = k
  · subst same
    rw [get_withValue, Function.update_self]
    exact fits
  · rw [get_withValue, Function.update_of_ne same]
    exact valueFault?_of_valid valid j

/-- An explorer with a tab before it, a login, a port, a backslash, and a blank behind its path. -/
theorem transactionAddress_leads_past_blank :
    let p := test.withValue .bscExplorer ⟨"\thttps://u@a.b:8443\\x/ ", by decide⟩
    p.fault? = none ∧ Network.isEvm .bsc = true ∧
      ∀ hash, Check.isTransactionHash hash = true → ∃ page, p.transactionAddress .bsc hash = .ok page ∧
        Url.Leads "\thttps://u@a.b:8443\\x/ " page ("/tx/" ++ hash) := by
  intro p
  have valid : p.fault? = none := valid_withValue valid_test (by decide +kernel)
  have extensible : Url.Extensible "\thttps://u@a.b:8443\\x/ " := by
    refine ⟨by decide, by decide, fun _ => ?_⟩
    exact ⟨("https", "u@a.b:8443\\x/"), by decide, '\\', by decide, rfl⟩
  exact ⟨valid, rfl, (transactionAddress_leads_iff valid rfl).mpr extensible⟩

/-- A blank that is trimmed when an explorer is looked at stays before what is joined to it, and the
page is no address. What is joined to a query is part of the query. -/
theorem transactionAddress_leads_astray :
    let hash : Text := '0' :: 'x' :: List.replicate 64 'a'
    let blank := test.withValue .bscExplorer ⟨"https://a.b ", by decide⟩
    let query := test.withValue .bscExplorer ⟨"https://a.b/?c", by decide⟩
    Check.isTransactionHash hash = true ∧ Network.isEvm .bsc = true ∧
      (blank.fault? = none ∧ ∃ page, blank.transactionAddress .bsc hash = .ok page ∧
        Url.parse page = .error .badDomain) ∧
      (query.fault? = none ∧ ∃ page, query.transactionAddress .bsc hash = .ok page ∧
        (Url.parse page).map (·.path.text) = .ok ['/']) := by
  intro hash blank query
  have proper : Check.isTransactionHash hash = true := by decide
  have blankValid : blank.fault? = none := valid_withValue valid_test (by decide +kernel)
  have queryValid : query.fault? = none := valid_withValue valid_test (by decide +kernel)
  refine ⟨proper, rfl, ⟨blankValid, _, transactionAddress_eq_ok blankValid rfl proper, ?_⟩,
    queryValid, _, transactionAddress_eq_ok queryValid rfl proper, ?_⟩
  · decide +kernel
  · decide +kernel

end Profile
end EndpointProfile
