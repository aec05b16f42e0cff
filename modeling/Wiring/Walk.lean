/-!
Depth-first walks over nodes that refer to one another. A node is put in front of the ones placed
before it the first time it is reached, and what it refers to is walked right after it. References
may have to be called to get at their node; the first call that fails ends the walk.
-/

set_option autoImplicit false

namespace Wiring

/-- A reference to a node: the node itself, or what a call for it comes to. -/
inductive Reference (α ε : Type) where
  | direct (node : α)
  | called (outcome : Except ε α)

/-- What a walk has come to: the nodes placed, the last one in front; the nodes that calls gave,
in the order of the calls; and the failure that ended it. -/
structure Walk (α ε : Type) where
  placed : List α
  calls : List α
  failure : Option ε

/-- How nodes refer to one another. `covers` says of a placed node whether another one needs no
place of its own. -/
structure WalkRules (α ε : Type) where
  covers : α → α → Bool
  references : α → List (Reference α ε)

namespace Walk

variable {α ε : Type}

def start : Walk α ε :=
  ⟨[], [], none⟩

def follow (walk : Walk α ε) : Reference α ε → Walk α ε × Option α
  | .direct node => (walk, some node)
  | .called (.ok node) => ({ walk with calls := walk.calls ++ [node] }, some node)
  | .called (.error failure) => ({ walk with failure := some failure }, none)

def isCovered (rules : WalkRules α ε) (walk : Walk α ε) (node : α) : Bool :=
  walk.placed.any fun existing => rules.covers existing node

def place (walk : Walk α ε) (node : α) : Walk α ε :=
  { walk with placed := node :: walk.placed }

/-- Walks a reference, no more levels deep than the number says. -/
def visit (rules : WalkRules α ε) : Nat → Walk α ε → Reference α ε → Walk α ε
  | 0, walk, _ => walk
  | depth + 1, walk, reference =>
      if walk.failure.isSome then walk
      else
        match walk.follow reference with
        | (walk, none) => walk
        | (walk, some node) =>
            if walk.isCovered rules node then walk
            else (rules.references node).foldl (visit rules depth) (walk.place node)

def visitAll (rules : WalkRules α ε) (depth : Nat) (walk : Walk α ε)
    (references : List (Reference α ε)) : Walk α ε :=
  references.foldl (visit rules depth) walk

def ofRoots (rules : WalkRules α ε) (depth : Nat) (roots : List α) : Walk α ε :=
  start.visitAll rules depth (roots.map .direct)

def nodes (walk : Walk α ε) : Except ε (List α) :=
  match walk.failure with
  | some failure => .error failure
  | none => .ok walk.placed

end Walk

end Wiring
