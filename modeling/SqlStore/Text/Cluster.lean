import SqlStore.Text.BreakClass

/-!
# Clusters

A text is cut into its user-perceived characters, the extended grapheme clusters of Unicode.
Whether two neighbours belong together hangs on their classes and on a little of what stands
before them, which a `ClusterState` remembers: a pictograph that a joiner may follow, a consonant
that is being joined to the next one, and half a flag.
-/

namespace SqlStore.Text

/-- What the text up to a place says about a break there. -/
structure ClusterState where
  /-- The class of the character before the place. -/
  last : BreakClass
  /-- Whether a pictograph with nothing but marks and then at most one joiner after it comes
  last. -/
  pictograph : Bool
  /-- Whether a consonant with nothing but marks after it comes last, and if so, whether one of the
  marks is a linker. -/
  conjunct : Option Bool
  /-- Whether an odd number of flag letters comes last. -/
  oddRegional : Bool

namespace ClusterState

def start : ClusterState where
  last := .control
  pictograph := false
  conjunct := none
  oddRegional := false

def next (s : ClusterState) (k : BreakClass) : ClusterState where
  last := k
  pictograph :=
    match k with
    | .pictograph => true
    | .extend | .linker | .nonJoiner | .joiner => s.pictograph && s.last != .joiner
    | _ => false
  conjunct :=
    match k with
    | .consonant => some false
    | .linker => s.conjunct.map fun _ => true
    | .extend | .joiner => s.conjunct
    | _ => none
  oddRegional := k == .regional && !s.oddRegional

/-- Whether a character of the given class belongs to the cluster before it. -/
def joins (s : ClusterState) (k : BreakClass) : Bool :=
  if s.last.isControl || k.isControl then s.last == .carriageReturn && k == .lineFeed
  else
    k.isAttached || s.last == .prepended || s.last.inSyllable k ||
      (k == .consonant && s.conjunct == some true) ||
      (k == .pictograph && s.last == .joiner && s.pictograph) ||
      (k == .regional && s.oddRegional)

end ClusterState

def clustersFrom (s : ClusterState) : List Char → List (List Char)
  | [] => []
  | c :: cs =>
    let s := s.next (.ofChar c)
    match cs.head?.any fun d => s.joins (.ofChar d), clustersFrom s cs with
    | true, r :: rs => (c :: r) :: rs
    | _, rs => [c] :: rs

def clusters (cs : List Char) : List (List Char) :=
  clustersFrom .start cs

example : clusters ['e', '\u0301', 'x'] = [['e', '\u0301'], ['x']] := by decide +kernel

example : clusters ['🇪', '🇺', '🇪', 'x'] = [['🇪', '🇺'], ['🇪'], ['x']] := by decide +kernel

end SqlStore.Text
