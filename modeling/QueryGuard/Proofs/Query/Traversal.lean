import QueryGuard.Proofs.Query.Document
import QueryGuard.Proofs.Query.Exposure

/-!
# `QueryGuard.Proofs.Query.Traversal`: the walk, turn by turn

`Node.selectors` visits a stack of nodes, the top first. This file takes its loop apart. A
`Traversal` is the state between two turns: the stack, here with the next node last, and the
selectors yielded so far. A turn takes that node off. A selector is yielded, and any other
node has its children put on in reverse, so that the first of them is the next to be visited.

* `turn?_cases`: all that one turn can do.
* `outcome_of_turn?` and `turnsLeft_of_turn?`: a turn keeps what is yielded in all, and takes
  one off the number of turns to come. A turn can put many nodes on the stack, so the number
  counts the nodes below those of the stack as well (`Node.visits`).
* `after_turnsLeft`: hence the traversal ends after that many turns, and has yielded all.

`traversal_yields_walk` puts this together with the places of the selectors (`Node.placed`)
and with the documents that trees are read from (`Json.Outermost`).
-/

set_option autoImplicit false

namespace QueryGuard

/-- The state of a walk between two turns. -/
structure Traversal where
  /-- The nodes still to visit, the next one last. -/
  stack : List Node
  /-- The selectors yielded so far. -/
  yielded : List SelectorNode

namespace Traversal

open Node (visit visits total)

/-! ### One turn, and several -/

/-- Before the first turn. -/
def start (n : Node) : Traversal := ⟨[n], []⟩

/-- One turn: the last node leaves the stack, and is yielded or makes way for its children.
With no node left there is no turn. -/
def turn? (t : Traversal) : Option Traversal :=
  match t.stack.getLast? with
  | none => none
  | some (.selector s) => some ⟨t.stack.dropLast, t.yielded ++ [s]⟩
  | some (.inner kind fields args) =>
    some ⟨t.stack.dropLast ++ (Node.children (.inner kind fields args)).reverse, t.yielded⟩

/-- The state after a number of turns, none if there are not as many. -/
def after : Nat → Traversal → Option Traversal
  | 0, t => some t
  | k + 1, t => t.turn?.bind (after k)

/-- The nodes still to visit, the next one first. -/
def pending (t : Traversal) : List Node := t.stack.reverse

/-- What is yielded in all: so far, and from the nodes still to visit. -/
def outcome (t : Traversal) : List SelectorNode := t.yielded ++ visit t.pending

/-- The turns to come: one for each node of the stack, and for each node that the children
reach from there. -/
def turnsLeft (t : Traversal) : Nat := total (t.pending.map visits)

variable {t u : Traversal}

/-! ### What a turn keeps -/

/-- A turn that takes a selector off the stack yields it. -/
theorem turn?_of_selector {rest : List Node} {s : SelectorNode}
    (h : t.stack = rest ++ [.selector s]) : t.turn? = some ⟨rest, t.yielded ++ [s]⟩ := by
  rw [turn?, h, List.getLast?_concat, List.dropLast_concat]

/-- A turn that takes any other node off the stack puts its children there, the first on top. -/
theorem turn?_of_inner {rest args : List Node} {kind : String} {fields : List (String × Node)}
    (h : t.stack = rest ++ [.inner kind fields args]) :
    t.turn? = some ⟨rest ++ (Node.children (.inner kind fields args)).reverse, t.yielded⟩ := by
  rw [turn?, h, List.getLast?_concat, List.dropLast_concat]

/-- A traversal is at its end, yields a selector, or goes on with the children of a node. -/
theorem turn?_cases (t : Traversal) :
    (t.pending = [] ∧ t.turn? = none) ∨
    (∃ s rest, t.pending = .selector s :: rest ∧
      ∃ u, t.turn? = some u ∧ u.pending = rest ∧ u.yielded = t.yielded ++ [s]) ∨
    ∃ kind fields args rest, t.pending = .inner kind fields args :: rest ∧
      ∃ u, t.turn? = some u ∧
        u.pending = Node.children (.inner kind fields args) ++ rest ∧ u.yielded = t.yielded := by
  rcases List.eq_nil_or_concat' t.stack with h | ⟨rest, n, h⟩
  · left
    refine ⟨by rw [pending, h]; rfl, ?_⟩
    rw [turn?, h]
    rfl
  · right
    have hpending : t.pending = n :: rest.reverse := by
      rw [pending, h, List.reverse_concat]
    cases n with
    | selector s =>
      left
      exact ⟨s, rest.reverse, hpending, _, turn?_of_selector h, rfl, rfl⟩
    | inner kind fields args =>
      right
      refine ⟨kind, fields, args, rest.reverse, hpending, _, turn?_of_inner h, ?_, rfl⟩
      -- What was put on in reverse comes off in order, before the rest.
      show (rest ++ (Node.children (.inner kind fields args)).reverse).reverse = _
      rw [List.reverse_append, List.reverse_reverse]

/-- There is a turn as long as there are nodes to visit. -/
theorem turn?_eq_none_iff : t.turn? = none ↔ t.pending = [] := by
  rcases turn?_cases t with ⟨hnil, hnone⟩ | ⟨s, rest, hp, u, hu, -⟩ |
      ⟨kind, fields, args, rest, hp, u, hu, -⟩
  · simp [hnil, hnone]
  · simp [hp, hu]
  · simp [hp, hu]

/-- A turn keeps what is yielded in all. -/
theorem outcome_of_turn? (h : t.turn? = some u) : u.outcome = t.outcome := by
  unfold outcome
  rcases turn?_cases t with ⟨-, hnone⟩ | ⟨s, rest, hp, u', hu, hrest, hyielded⟩ |
      ⟨kind, fields, args, rest, hp, u', hu, hrest, hyielded⟩
  · cases hnone.symm.trans h
  · obtain rfl : u' = u := Option.some.inj (hu.symm.trans h)
    rw [hp, hrest, hyielded, visit, List.append_assoc, List.singleton_append]
  · obtain rfl : u' = u := Option.some.inj (hu.symm.trans h)
    rw [hp, hrest, hyielded, visit]

/-- A turn is one of those that were to come. -/
theorem turnsLeft_of_turn? (h : t.turn? = some u) : u.turnsLeft + 1 = t.turnsLeft := by
  unfold turnsLeft
  -- A turn takes one node off the stack and puts its children there, whose visits make up
  -- the node's but for one.
  rcases turn?_cases t with ⟨-, hnone⟩ | ⟨s, rest, hp, u', hu, hrest, -⟩ |
      ⟨kind, fields, args, rest, hp, u', hu, hrest, -⟩
  · cases hnone.symm.trans h
  · obtain rfl : u' = u := Option.some.inj (hu.symm.trans h)
    have hvisits : visits (.selector s) = 1 := by
      rw [Node.visits_eq]
      rfl
    rw [hp, hrest, List.map_cons, total, hvisits]
    omega
  · obtain rfl : u' = u := Option.some.inj (hu.symm.trans h)
    have hvisits := Node.visits_eq (.inner kind fields args)
    rw [hp, hrest, List.map_cons, total, hvisits, List.map_append, Node.total_append]
    omega

/-! ### A whole traversal -/

/-- Any number of turns keeps what is yielded in all. -/
theorem outcome_of_after {k : Nat} (h : after k t = some u) : u.outcome = t.outcome := by
  induction k generalizing t with
  | zero => rw [Option.some.inj h]
  | succ k ih =>
    obtain ⟨v, hv, hafter⟩ := Option.bind_eq_some_iff.1 h
    rw [ih hafter, outcome_of_turn? hv]

/-- A traversal comes to its end, and has then yielded all. -/
theorem after_turnsLeft (t : Traversal) : after t.turnsLeft t = some ⟨[], t.outcome⟩ := by
  -- On the turns to come. None are left exactly if the stack is empty.
  induction hk : t.turnsLeft generalizing t with
  | zero =>
    cases hturn : t.turn? with
    | none =>
      have hpending : t.pending = [] := turn?_eq_none_iff.1 hturn
      have hstack : t.stack = [] := List.reverse_eq_nil_iff.1 hpending
      have houtcome : t.outcome = t.yielded := by
        rw [outcome, hpending, visit, List.append_nil]
      show some t = some ⟨[], t.outcome⟩
      rw [houtcome, ← hstack]
    | some u =>
      have hleft := turnsLeft_of_turn? hturn
      omega
  | succ k ih =>
    cases hturn : t.turn? with
    | none =>
      have hnone : t.turnsLeft = 0 := by
        rw [turnsLeft, turn?_eq_none_iff.1 hturn]
        rfl
      omega
    | some u =>
      have hleft := turnsLeft_of_turn? hturn
      show t.turn?.bind (after k) = _
      rw [hturn, ← outcome_of_turn? hturn]
      exact ih u (by omega)

/-- A traversal that starts has all the selectors of the tree before it. -/
theorem outcome_start (n : Node) : (start n).outcome = n.selectors := rfl

/-- A traversal that starts has a turn left for each visit. -/
theorem turnsLeft_start (n : Node) : (start n).turnsLeft = n.visits := Nat.add_zero _

/-- What a traversal comes to is what it has yielded and what the stack still owes. -/
theorem outcome_eq_walk (t : Traversal) :
    t.outcome = t.yielded ++ t.stack.reverse.flatMap Node.walk := by
  rw [outcome, Node.visit_eq_flatMap_walk]
  rfl

/-- The loop over a stack ends, after one turn for each node that the children reach, and
yields the selectors of the recursive walk. After any number of turns, what has been yielded
and what the walks through the stack would yield, its last node first, make up the whole.

The recursive walk yields a selector itself, and the walks through its children of any other
node, one after the other. It yields each selector of the tree exactly once, with places
that ascend (`Node.placed`). These are the selectors of the document that have no selector
above them. -/
theorem traversal_yields_walk (n : Node) :
    (after n.visits (start n) = some ⟨[], n.selectors⟩ ∧ n.selectors = n.walk) ∧
    (∀ k t, after k (start n) = some t →
      t.yielded ++ t.stack.reverse.flatMap Node.walk = n.walk) ∧
    ((∀ s, Node.walk (.selector s) = [s]) ∧
      ∀ kind fields args, Node.walk (.inner kind fields args) =
        (Node.children (.inner kind fields args)).flatMap Node.walk) ∧
    (n.placed.map (·.2) = n.selectors ∧ n.placed.Pairwise (fun x y => x.1 < y.1) ∧
      ∀ place s, (place, s) ∈ n.placed ↔ n.selectorAt? place = some s) ∧
    ∀ j, Node.ofJson? j = some n →
      ∀ place s, (place, s) ∈ n.placed ↔ j.Outermost place s := by
  have hwalk : n.selectors = n.walk := Node.selectors_eq_walk n
  refine ⟨⟨?_, hwalk⟩, ?_, ⟨Node.walk_selector, Node.walk_inner⟩, ⟨?_, ?_, ?_⟩, ?_⟩
  · -- The count of turns that are left runs out exactly when the stack does.
    have hafter := after_turnsLeft (start n)
    rw [turnsLeft_start, outcome_start] at hafter
    exact hafter
  · intro k t h
    rw [← outcome_eq_walk, outcome_of_after h, outcome_start, hwalk]
  · rw [Node.map_snd_placed, hwalk]
  · exact Node.pairwise_placed n
  · intro place s
    exact Node.mem_placed
  · intro j hj place s
    rw [Node.mem_placed]
    exact Json.selectorAt?_eq_some_iff hj

/-! ### Samples -/

/-- The document of a selector, with further fields. -/
def selectorDocument (metric : String) (more : Fields Json) : Json :=
  .object ((kindField, .string Node.selectorKind) :: ("name", .string metric) :: more)

/-- The document of a sum with one metric on both sides, once as an argument of a call. Its
first selector holds another one. -/
def twiceUpDocument : Json :=
  .object [(kindField, .string "BinaryExpr"),
    ("rhs", .object [(kindField, .string "Call"),
      (argumentsField, .array [selectorDocument "up" []])]),
    ("lhs", selectorDocument "up" [("expr", selectorDocument "hidden" [])])]

/-- The call on the right. -/
def callOfUp : Node := .inner "Call" [] [.selector (Node.allOf "up")]

/-- The tree of that document. -/
def twiceUp : Node :=
  .inner "BinaryExpr" [("rhs", callOfUp), ("lhs", .selector (Node.allOf "up"))] []

/-- Both selectors on top are yielded, and the one below the first is not. After two turns
the first has been yielded, and the call is on the stack. -/
theorem traversal_twiceUp :
    Node.ofJson? twiceUpDocument = some twiceUp ∧
    after twiceUp.visits (start twiceUp) = some ⟨[], [Node.allOf "up", Node.allOf "up"]⟩ ∧
    after 2 (start twiceUp) = some ⟨[callOfUp], [Node.allOf "up"]⟩ ∧
    [Node.allOf "up"] ++ [callOfUp].reverse.flatMap Node.walk = twiceUp.walk ∧
    ([1, 0], Node.allOf "up") ∈ twiceUp.placed ∧
    twiceUpDocument.selectorAt? [0, 0] = some (Node.allOf "hidden") ∧
    ([0, 0], Node.allOf "hidden") ∉ twiceUp.placed := by
  have hread : Node.ofJson? twiceUpDocument = some twiceUp := rfl
  have htwo : after 2 (start twiceUp) = some ⟨[callOfUp], [Node.allOf "up"]⟩ := rfl
  have hhidden : twiceUpDocument.selectorAt? [0, 0] = some (Node.allOf "hidden") := rfl
  obtain ⟨⟨hends, hwalk⟩, hkept, ⟨hselector, hinner⟩, ⟨-, -, hplaced⟩, houter⟩ :=
    traversal_yields_walk twiceUp
  have hcall : callOfUp.walk = [Node.allOf "up"] := by
    rw [callOfUp, hinner]
    show Node.walk (.selector _) ++ [] = _
    rw [hselector]
    rfl
  have hrest := hkept 2 _ htwo
  have hselectors : twiceUp.selectors = [Node.allOf "up", Node.allOf "up"] := by
    rw [hwalk, ← hrest]
    show [Node.allOf "up"] ++ (callOfUp.walk ++ []) = _
    rw [hcall]
    rfl
  rw [hselectors] at hends
  refine ⟨hread, hends, htwo, hrest, (hplaced _ _).2 rfl, hhidden, ?_⟩
  -- A selector stands above it in the document, at the place of the first one.
  intro hmem
  have habove : twiceUpDocument.selectorAt? [0] = none :=
    ((houter _ hread _ _).1 hmem).above [0] ⟨[0], rfl⟩ (by decide)
  cases habove

end Traversal

end QueryGuard
