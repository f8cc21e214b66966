import Phrasebook.Dict
import Phrasebook.Rule.Index
import Phrasebook.Rule.Plural

/-!
The rules that scripts may put into a chain: the built-in ones, and samples of every way in which a
rule can behave.
-/

set_option autoImplicit false
set_option relaxedAutoImplicit false

namespace Phrasebook.Rule

/-- The kinds of rules that a script can name. -/
inductive Sample
  | index | plural
  /-- Capital letters for what follows the mark. -/
  | upper
  /-- What follows the mark, backwards. -/
  | reverse
  | broken
  | none
  | integer
  | empty
  /-- Counts its calls. -/
  | counting
  /-- Any other rule that goes by the content and the tag of the locale in force, or the complaint
  in place of one. -/
  | custom (name : Text) (apply : Except Text Text → Text → RuleResult)

namespace Sample

def table : List (Text × Sample) :=
  [("index", index), ("plural", plural), ("upper", upper), ("reverse", reverse),
    ("broken", broken), ("none", none), ("integer", integer), ("empty", empty),
    ("counting", counting)]

def ofName? (name : Text) : Option Sample := table.lookup name

def mark : Text := ['u', 'p', ':']

/-- A change of what follows the mark; a content without it is kept. -/
def afterMark (f : Text → Text) (content : Text) : Text :=
  ((Text.dropStart? mark content).map f).getD content

abbrev Counters := Dict Nat Nat

/-- What a state offers to the rules of a script: the locale tag in force, or the complaint in place of
one, and the call counters. -/
structure Access (σ : Type) where
  tag : σ → Except Text Text
  counters : σ → Counters
  setCounters : Counters → σ → σ

variable {σ : Type}

/-- The rule of a kind; the instance is the one whose calls a counting rule counts. -/
def rule (access : Access σ) (instanceId : Nat) (sample : Sample) : Rule σ :=
  match sample with
  | index => Index.rule
  | plural => Plural.rule access.tag
  | upper => .ofFunction "UppercaseRule" (afterMark Text.upper)
  | reverse => .ofFunction "ReverseRule" (afterMark List.reverse)
  | broken => ⟨"BrokenRule", fun _ s => (.failed "boom", s)⟩
  | none => ⟨"NoneRule", fun _ s => (.notText "NoneType", s)⟩
  | integer => ⟨"IntegerRule", fun _ s => (.notText "int", s)⟩
  | empty => .ofFunction "EmptyRule" fun _ => []
  | counting => ⟨"CountingRule", fun content s =>
      let calls := ((access.counters s).get? instanceId).getD 0 + 1
      (.text (content ++ '#' :: Nat.toDigits 10 calls),
        access.setCounters ((access.counters s).insert instanceId calls) s)⟩
  | custom name apply => ⟨name, fun content s => (apply (access.tag s) content, s)⟩

def rules (access : Access σ) : Nat → List Sample → List (Rule σ)
  | _, [] => []
  | instanceId, sample :: more =>
    sample.rule access instanceId :: rules access (instanceId + 1) more

end Sample

/-- A place to try rules out: the locale tag in force, and the call counters. -/
structure Bench where
  tag : Except Text Text
  counters : Sample.Counters := ∅

def Bench.access : Sample.Access Bench :=
  ⟨tag, counters, fun counters bench => { bench with counters }⟩

end Phrasebook.Rule
