import EndpointProfile.Profile.Error

/-! Profiles: a literal for each of the nine keys. -/
namespace EndpointProfile

structure Profile where
  get : Key → Literal

namespace Profile

@[ext] theorem ext {p q : Profile} (h : ∀ k, p.get k = q.get k) : p = q := by
  cases p; cases q; exact congrArg mk (funext h)

/-- The keys whose values differ, in record order. -/
def differences (p q : Profile) : List Key :=
  Key.all.filter fun k => p.get k ≠ q.get k

theorem differences_eq_nil {p q : Profile} : p.differences q = [] ↔ p = q := by
  constructor
  · intro h
    apply Profile.ext
    intro k
    have := List.filter_eq_nil_iff.mp h k (Key.mem_all k)
    simpa using this
  · rintro rfl
    simp [differences]

instance : DecidableEq Profile := fun _ _ =>
  decidable_of_iff _ differences_eq_nil

/-- The keys and their values, in record order. -/
def entries (p : Profile) : List (Key × Literal) :=
  Key.all.map fun k => (k, p.get k)

/-- A profile whose values are given by their text, which has to be free of flaws. -/
private def ofTexts (text : Key → Text) (h : ∀ k, Literal.flawAfter false (text k) = none) :
    Profile :=
  ⟨fun k => ⟨text k, h k⟩⟩

private def testText : Key → Text
  | .environment => "test"
  | .api => "http://192.168.88.216:5002/"
  | .paymentGateway => "http://192.168.88.41:8889/"
  | .paymentGatewayBsc => "http://192.168.88.41:8892/"
  | .mainnetExplorer => "https://filscan.io/tipset/dsn-detail"
  | .calibrationExplorer => "https://calibration.filscan.io/tipset/dsn-detail"
  | .polygonExplorer => "https://mumbai.polygonscan.com/"
  | .bscExplorer => "https://testnet.bscscan.com/"
  | .ecoApi => "http://192.168.88.216:5005/"

def test : Profile :=
  ofTexts testText fun k => by cases k <;> decide +kernel

def forStage : Stage → Except Fault Profile
  | .test => .ok test
  | s => .error (.unavailable s)

def forName (name : Text) : Except Fault Profile :=
  match Stage.ofName? name with
  | some s => forStage s
  | none => .error (.unknownStage name)

/-- The first pair whose key already came before it, with its position from 1 on. -/
def repeated? : Nat → List Key → List (Key × Literal) → Option Fault
  | _, _, [] => none
  | n, seen, (k, _) :: rest =>
    if k ∈ seen then some (.duplicateKey k n) else repeated? (n + 1) (k :: seen) rest

/-- The profile that some pairs make up. No key may come twice, and none may be left out. -/
def ofEntries (pairs : List (Key × Literal)) : Except Fault Profile :=
  match repeated? 1 [] pairs with
  | some f => .error f
  | none =>
    match h : Key.all.find? fun k => (pairs.lookup k).isNone with
    | some k => .error (.missingKey k)
    | none =>
      have found (k : Key) : (pairs.lookup k).isSome := by
        have := List.find?_eq_none.mp h k (Key.mem_all k)
        simpa [Option.isSome_iff_ne_none] using this
      .ok ⟨fun k => (pairs.lookup k).get (found k)⟩

def lookup (p : Profile) (name : Text) : Except Fault Literal :=
  match Key.ofName? name with
  | some k => .ok (p.get k)
  | none => .error (.unknownKey name)

/-- The stage that the profile says it is for. -/
def stage (p : Profile) : Except Fault Stage :=
  let name := (p.get .environment).unquoted
  match Stage.ofName? name with
  | some s => .ok s
  | none => .error (.unknownStage name)

/-- Why a text does not fit a key: the environment has to be a stage, all else a web address. -/
def valueFault? (k : Key) (text : Text) : Option ValueFault :=
  match k.kind with
  | .environmentName =>
    match Stage.ofName? text with
    | some _ => none
    | none => some (.unknownStage text)
  | .serviceOrigin | .explorerAddress => (Check.address? text).map .violation

/-- The first key whose value does not fit it. -/
def fault? (p : Profile) : Option Fault :=
  Key.all.findSome? fun k => (valueFault? k (p.get k).unquoted).map (.badValue k)

/-- The profile itself, if all its values fit. -/
def validated (p : Profile) : Except Fault Profile :=
  match p.fault? with
  | some f => .error f
  | none => .ok p

/-- The services that the profile names, with their origins. -/
def serviceOrigins (p : Profile) : List (Text × Text) :=
  (p.entries.filter fun (k, _) => k.kind = .serviceOrigin).map fun (k, l) => (k.name, l.unquoted)

/-- What a build replaces, and the code that it puts there. -/
def definitions (p : Profile) : List (Text × Text) :=
  p.entries.map fun (k, l) => ("process.env." ++ k.name, l.raw)

end Profile
end EndpointProfile
