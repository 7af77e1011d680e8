import EndpointProfile.Proofs.Profile.Joining

/-! Which transactions have a page, and what is written in its address. -/
namespace EndpointProfile

theorem Network.isEvm_iff {n : Network} : n.isEvm = true ↔ n = .polygon ∨ n = .bsc := by
  cases n <;> decide

theorem Network.not_isEvm_iff {n : Network} : ¬ n.isEvm = true ↔ n = .mainnet ∨ n = .calibration := by
  cases n <;> decide

namespace Check

def hexDigits : Text := "0123456789abcdefABCDEF"

/-- `0x` and 64 hexadecimal digits of ASCII, and nothing else. -/
def IsHash (t : Text) : Prop :=
  ∃ digits : Text, t = '0' :: 'x' :: digits ∧ digits.length = 64 ∧ ∀ c ∈ digits, c ∈ hexDigits

theorem isHexDigit_iff {c : Char} : isHexDigit c = true ↔ c ∈ hexDigits := by
  constructor
  · intro digit
    -- the digits are letters and digits of ASCII, which are looked at one by one
    have ascii : ∀ n < 0x80, (Char.ofNat n).isAlphanum = true → isHexDigit (Char.ofNat n) = true →
        Char.ofNat n ∈ hexDigits := by decide
    exact Url.of_isAlphanum (P := fun c => isHexDigit c = true → c ∈ hexDigits) ascii
      (isAlphanum_of_isHexDigit digit) digit
  · have all : hexDigits.all isHexDigit = true := by decide
    exact List.all_eq_true.mp all c

theorem isTransactionHash_iff {t : Text} : isTransactionHash t = true ↔ IsHash t := by
  unfold isTransactionHash
  split
  · next digits =>
      rw [Bool.and_eq_true, decide_eq_true_eq, List.all_eq_true]
      constructor
      · rintro ⟨long, hex⟩
        exact ⟨digits, rfl, long, fun c here => isHexDigit_iff.mp (hex c here)⟩
      · rintro ⟨_, same, long, listed⟩
        obtain rfl : digits = _ := by simpa using same
        exact ⟨long, fun c here => isHexDigit_iff.mpr (listed c here)⟩
  · next other =>
      refine iff_of_false Bool.false_ne_true ?_
      rintro ⟨digits, same, -⟩
      exact other digits same

end Check

namespace Profile

/-- The last two segments of a page are `tx` and the hash of the transaction, and it starts with the
explorer without the slashes at its end. -/
structure IsPage (explorer hash page : Text) : Prop where
  segments : ["tx".toList, hash] <:+ page.splitOn '/'
  below : explorer ≠ [] → ∃ front, Unslashed explorer front ∧ front <+: page

/-- What is answered to a request for the page of a transaction. -/
inductive PageAnswer (p : Profile) (n : Network) (hash : Text) : Except Fault Text → Prop where
  | noExplorer (filecoin : n = .mainnet ∨ n = .calibration) :
      PageAnswer p n hash (.error (.noTransactionExplorer n))
  | badHash (evm : n = .polygon ∨ n = .bsc) (other : ¬ Check.IsHash hash) :
      PageAnswer p n hash (.error (.violation .badTransactionHash))
  | found (evm : n = .polygon ∨ n = .bsc) (proper : Check.IsHash hash) {page : Text}
      (is : IsPage (p.explorerBase n) hash page) : PageAnswer p n hash (.ok page)

variable {p : Profile} {n : Network} {hash page : Text}

theorem splitOn_transactionPath (proper : Check.isTransactionHash hash = true) :
    (transactionPath hash).splitOn '/' = ["tx".toList, hash] := by
  have free : '/' ∉ hash := fun here =>
    absurd (Check.plain_of_isTransactionHash proper '/' here) (by decide)
  rw [transactionPath, List.splitOn_append_cons_self_of_not_mem (by decide),
    List.splitOn_eq_singleton free]
  rfl

theorem isPage_joinPath (explorer : Text) (proper : Check.isTransactionHash hash = true) :
    IsPage explorer hash (joinPath explorer (transactionPath hash)) := by
  rcases eq_or_ne explorer [] with rfl | given
  · rw [nil_joinPath]
    exact ⟨⟨[], (splitOn_transactionPath proper).symm⟩, fun given => absurd rfl given⟩
  · obtain ⟨front, left⟩ := Unslashed.exists_front explorer
    have page : joinPath explorer (transactionPath hash) = front ++ '/' :: transactionPath hash :=
      left.joinPath_eq given (List.cons_ne_nil _ _)
    rw [page]
    refine ⟨?_, fun _ => ⟨front, left, List.prefix_append _ _⟩⟩
    rw [List.splitOn_append_cons_self, splitOn_transactionPath proper]
    exact List.suffix_append _ _

theorem IsPage.hash_unique {explorer hash' : Text} (is : IsPage explorer hash page)
    (is' : IsPage explorer hash' page) : hash = hash' := by
  have same : ["tx".toList, hash] = ["tx".toList, hash'] :=
    (List.suffix_of_suffix_length_le is.segments is'.segments (Nat.le_refl 2)).eq_of_length rfl
  exact (List.cons.inj (List.cons.inj same).2).1

theorem pageAnswer_transactionAddress (p : Profile) (n : Network) (hash : Text) :
    PageAnswer p n hash (p.transactionAddress n hash) := by
  unfold transactionAddress
  split
  · next evm =>
      have named := Network.isEvm_iff.mp evm
      unfold Check.transactionHash?
      by_cases proper : Check.isTransactionHash hash = true
      · rw [if_pos proper]
        exact .found named (Check.isTransactionHash_iff.mp proper) (isPage_joinPath _ proper)
      · rw [if_neg proper]
        exact .badHash named (mt Check.isTransactionHash_iff.mpr proper)
  · next other => exact .noExplorer (Network.not_isEvm_iff.mp other)

theorem PageAnswer.isPage (answer : PageAnswer p n hash (.ok page)) :
    IsPage (p.explorerBase n) hash page := by
  cases answer with
  | found evm proper is => exact is

/-- On the networks that have pages each hash has a page of its own, and nothing else has one. -/
theorem transactionAddress_exact (p : Profile) (n : Network) :
    (∀ hash, PageAnswer p n hash (p.transactionAddress n hash)) ∧
      ∀ hash hash' page, p.transactionAddress n hash = .ok page →
        p.transactionAddress n hash' = .ok page → hash = hash' := by
  refine ⟨pageAnswer_transactionAddress p n, fun hash hash' page found found' => ?_⟩
  have answer := pageAnswer_transactionAddress p n hash
  have answer' := pageAnswer_transactionAddress p n hash'
  rw [found] at answer
  rw [found'] at answer'
  exact answer.isPage.hash_unique answer'.isPage

example : test.transactionAddress .bsc ("0x" ++ List.replicate 64 'f') =
    .ok ("https://testnet.bscscan.com/tx/0x" ++ List.replicate 64 'f') := rfl

end Profile
end EndpointProfile
