import CodeNav.Index.Read

/-! Histories of an index: what was merged and evicted, one after the other. The latest findings
of each file that is still in are all that a history should leave behind. -/
namespace CodeNav.Index

inductive Change where
  | merge (found : Findings)
  | evict (path : String)

def apply (index : Index) : Change → Index
  | .merge found => index.merge found
  | .evict path => index.evict path

def run (history : List Change) : Index := history.foldl apply empty

def liveAfter (live : List Findings) : Change → List Findings
  | .merge found =>
    live.filter (fun other => Path.normalize other.file ≠ Path.normalize found.file) ++ [found]
  | .evict path => live.filter fun other => Path.normalize other.file ≠ Path.normalize path

/-- The latest findings of each file that is in after a history, in the order of their merges. -/
def live (history : List Change) : List Findings := history.foldl liveAfter []

def ofFindings (all : List Findings) : Index := all.foldl merge empty

def Disjoint (all : List Findings) : Prop :=
  all.Pairwise fun a b => ∀ identity ∈ a.definitions.keys, identity ∉ b.definitions.keys

/-- At no point of a history do two files that are in define the same identity. -/
def Clean (history : List Change) : Prop :=
  ∀ before after, history = before ++ after → Disjoint (live before)

end CodeNav.Index
