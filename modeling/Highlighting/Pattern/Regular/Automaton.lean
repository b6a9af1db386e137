import Highlighting.Pattern.Regular.ByteRange
import Highlighting.Pattern.Regular.Normal

/-!
The memory that the automaton of an expression takes.

A matcher is built as an automaton over bytes, one that reads the text forwards and one that
reads it backwards, and neither may take more than `limit` bytes. Only this size is computed
here. A `Plan` says which states are added, in order; the sets that go beyond ASCII are the one
part whose size depends on the number of states before them, since their states are shared by
means of a cache of bounded size in which the numbers of states are hashed.
-/
namespace Highlighting.Pattern

structure Automaton where
  states : Nat
  memory : Nat

namespace Automaton

def limit : Nat := 10485760

def tooLarge (a : Automaton) : Bool := limit < a.memory

def stateBytes : Nat := 32

def add (a : Automaton) (states memory : Nat) : Automaton :=
  ⟨a.states + states, a.memory + memory⟩

def addRanges (a : Automaton) (count : Nat) : Automaton := a.add 1 (stateBytes + 8 * count)

/-- A cache: every key has one slot, and a new key takes the slot of the one before it. -/
structure Cache (Key : Type) where
  slots : Array (Option (Key × Nat))

namespace Cache

variable {Key : Type} [BEq Key]

def empty (capacity : Nat) : Cache Key := ⟨Array.replicate capacity none⟩

def slot (cache : Cache Key) (numbers : List Nat) : Nat :=
  let hash := numbers.foldl
    (fun hash n => (hash ^^^ UInt64.ofNat n) * 1099511628211) (14695981039346656037 : UInt64)
  hash.toNat % cache.slots.size

def get? (cache : Cache Key) (slot : Nat) (key : Key) : Option Nat :=
  match cache.slots[slot]? with
  | some (some (found, n)) => if found == key then some n else none
  | _ => none

def put (cache : Cache Key) (slot : Nat) (key : Key) (n : Nat) : Cache Key :=
  ⟨cache.slots.setIfInBounds slot (some (key, n))⟩

end Cache

structure Edge where
  range : ByteRange
  target : Nat
  deriving DecidableEq

/-! ### Reading a set forwards -/

/-- A state that is not finished yet: its transitions, and the range of the one that is still
missing its target. -/
structure Node where
  edges : List Edge
  last : Option ByteRange

namespace Node

def finish (node : Node) (target : Nat) : List Edge :=
  match node.last with
  | some range => node.edges ++ [⟨range, target⟩]
  | none => node.edges

end Node

/-- The construction of the part that reads the members of a set. States with the same
transitions are shared as long as the cache knows them. The nodes are the states on the way of the
sequence added last. -/
structure Reading where
  automaton : Automaton
  cache : Cache (List Edge)
  nodes : List Node

namespace Reading

def state (r : Reading) (edges : List Edge) : Nat × Reading :=
  let slot := r.cache.slot (edges.flatMap fun e => [e.range.first, e.range.last, e.target])
  match r.cache.get? slot edges with
  | some number => (number, r)
  | none =>
    let number := r.automaton.states
    (number, { r with
      automaton := r.automaton.addRanges edges.length
      cache := r.cache.put slot edges number })

/-- Finishes nodes, of which each leads to the next one and the last one to `target`. The answer
is the number of the first state. -/
def close (target : Nat) : List Node → Reading → Nat × Reading
  | [], r => (target, r)
  | node :: rest, r =>
    let (next, r) := close target rest r
    r.state (node.finish next)

def shared : List ByteRange → List Node → Nat
  | range :: ranges, node :: nodes =>
    if node.last = some range then shared ranges nodes + 1 else 0
  | _, _ => 0

def addSequence (target : Nat) (r : Reading) (sequence : List ByteRange) : Reading :=
  let count := shared sequence r.nodes
  let (next, r) := close target (r.nodes.drop (count + 1)) r
  let turn := (r.nodes.drop count).head?.elim [] (·.finish next)
  let fresh := (sequence.drop (count + 1)).map fun range => ⟨[], some range⟩
  { r with nodes := r.nodes.take count ++ ⟨turn, sequence[count]?⟩ :: fresh }

end Reading

def addForwards (a : Automaton) (sequences : List (List ByteRange)) : Automaton :=
  let target := a.states
  let r : Reading := ⟨a.add 1 stateBytes, .empty 10000, [⟨[], none⟩]⟩
  let r := sequences.foldl (Reading.addSequence target) r
  (Reading.close target r.nodes r).2.automaton

/-! ### Reading a set backwards -/

def addBackwards.sequence (a : Automaton) (cache : Cache Edge) (target : Nat) :
    List ByteRange → Automaton × Cache Edge
  | [] => (a.add 0 4, cache)
  | range :: rest =>
    let edge : Edge := ⟨range, target⟩
    let slot := cache.slot [target, range.first, range.last]
    match cache.get? slot edge with
    | some number => addBackwards.sequence a cache number rest
    | none =>
      addBackwards.sequence (a.add 1 stateBytes) (cache.put slot edge a.states) a.states rest

/-- Adds the part that reads a character of a set backwards: a branch for every sequence, where
branches with the same first bytes share the states for them. -/
def addBackwards (a : Automaton) (sequences : List (List ByteRange)) : Automaton :=
  let target := a.states + 1
  (sequences.foldl (fun (a, cache) sequence => addBackwards.sequence a cache target sequence)
    (a.add 2 (2 * stateBytes), Cache.empty 1000)).1

/-! ### Plans -/

/-- The states of an expression in the order in which they are added. The `wide` ones are those for a
set that goes beyond ASCII. -/
inductive Plan where
  | states (count memory : Nat)
  | wide (sequences : List (List ByteRange))
  | seq (first second : Plan)
  | times (count : Nat) (body : Plan)

namespace Plan

def inRow : List Plan → Plan
  | [] => states 0 0
  | [only] => only
  | plan :: rest => seq plan (inRow rest)

def repeatAdd (step : Automaton → Automaton) : Nat → Automaton → Automaton
  | 0, a => a
  | count + 1, a => if a.tooLarge then a else repeatAdd step count (step a)

/-- Carries out a plan; the rest of it does not matter once the automaton is too large. -/
def carryOut (backwards : Bool) : Plan → Automaton → Automaton
  | states count memory, a => a.add count memory
  | wide sequences, a => if backwards then a.addBackwards sequences else a.addForwards sequences
  | seq first second, a =>
    let a := first.carryOut backwards a
    if a.tooLarge then a else second.carryOut backwards a
  | times count body, a => repeatAdd (body.carryOut backwards) count a

def fork (count : Nat) : Plan := states 1 (stateBytes + 4 * count)

def joint : Plan := states 1 stateBytes

end Plan

def behind (byte : Nat) (words : List (List Nat)) : List (List Nat) :=
  words.filterMap fun word =>
    match word with
    | b :: rest => if b = byte then some rest else none
    | [] => none

def splitAtEmpty : List (List Nat) → List (List (List Nat))
  | [] => [[]]
  | [] :: rest => [] :: splitAtEmpty rest
  | word :: rest =>
    match splitAtEmpty rest with
    | [] => [[word]]
    | first :: others => (word :: first) :: others

/-- The states of a tree of words, without the state in which all words end: at every place
where a word goes on there is a fork, and behind it one state for the next bytes of all words up
to the next one that ends there. -/
def treePlan : Nat → List (List Nat) → Plan
  | 0, _ => .states 0 0
  | fuel + 1, words =>
    let leading := (words.takeWhile (·.isEmpty)).length
    let groups := splitAtEmpty (words.drop (leading - 1))
    let next := groups.map fun group => (group.filterMap List.head?).eraseDups
    let ranges := next.map fun bytes =>
      match bytes.length with
      | 0 => Plan.states 0 0
      | 1 => Plan.states 1 stateBytes
      | count => Plan.states 1 (stateBytes + 8 * count)
    let links := groups.length - 1 + (next.filter (!·.isEmpty)).length
    let deeper := (groups.zip next).flatMap fun (group, bytes) => bytes.map fun byte =>
      let rest := behind byte group
      if rest.all (·.isEmpty) then .states 0 0 else treePlan fuel rest
    .inRow (ranges ++ [.fork links] ++ deeper)

end Automaton

namespace Regular

open Automaton

def letter? : Regular → Option (List Nat)
  | one s => s.single?.map fun c => ByteRange.bytesOf c.toNat
  | _ => none

def word? (e : Regular) : Option (List Nat) :=
  if e.parts.isEmpty then none else (e.parts.mapM letter?).map List.flatten

def leastLength? : Regular → Option Nat
  | empty | look _ => some 0
  | one s => if s.members.isEmpty then none else some 1
  | group _ body => body.leastLength?
  | seq first second => do return (← first.leastLength?) + (← second.leastLength?)
  | alt first second => do return min (← first.leastLength?) (← second.leastLength?)
  | many body least _ _ => body.leastLength?.map (· * least)

def planOf (s : CharSet) : Plan :=
  match s.single? with
  | some c => .states c.utf8Size (stateBytes * c.utf8Size)
  | none =>
    let members := s.members
    if members.all (·.2 < 0x80) then .states 2 (2 * stateBytes + 8 * members.length)
    else .wide (members.flatMap fun (lo, hi) => ByteRange.sequences lo hi)

def planOfBranches : List Plan → Plan
  | first :: second :: rest =>
    .inRow (first :: second :: .fork (rest.length + 2) :: .joint :: rest)
  | plans => .inRow plans

mutual

def plan (backwards : Bool) : Regular → Plan
  | empty | look _ => .joint
  | one s => planOf s
  | group _ body =>
    if backwards then body.plan backwards else .inRow [.joint, body.plan backwards, .joint]
  | seq first second =>
    if backwards then .seq (second.plan backwards) (first.plan backwards)
    else .seq (first.plan backwards) (second.plan backwards)
  | alt first second =>
    match (alt first second).branches.mapM word? with
    | some words =>
      let words := if backwards then words.map List.reverse else words
      .seq .joint (treePlan ((words.map List.length).foldl max 0 + 1) words)
    | none => planOfBranches (first.branchPlans backwards ++ second.branchPlans backwards)
  | many body least most _ =>
    let part := body.plan backwards
    match least, most with
    | 0, some 1 => .inRow [.fork 2, part, .joint]
    | 0, none =>
      if body.leastLength?.any (0 < ·) then .seq (.fork 2) part
      else .inRow [part, .fork 2, .fork 2, .joint]
    | least, none => .seq (.times least part) (.fork 2)
    | least, some most =>
      let copies := if least = 0 then .joint else .times least part
      if least = most then copies
      else .inRow [copies, .joint, .times (most - least) (.seq (.fork 2) part)]

def branchPlans (backwards : Bool) : Regular → List Plan
  | alt first second => first.branchPlans backwards ++ second.branchPlans backwards
  | e => [e.plan backwards]

end

def isAtStart : Regular → Bool
  | look condition => condition == .textStart
  | group _ body => body.isAtStart
  | seq first second => first.isAtStart || (first.isVoid && second.isAtStart)
  | alt first second => first.isAtStart && second.isAtStart
  | many body least _ _ => 0 < least && body.isAtStart
  | empty | one _ => false

def isAtEnd : Regular → Bool
  | look condition => condition == .textEnd
  | group _ body => body.isAtEnd
  | seq first second => second.isAtEnd || (second.isVoid && first.isAtEnd)
  | alt first second => first.isAtEnd && second.isAtEnd
  | many body least _ _ => 0 < least && body.isAtEnd
  | empty | one _ => false

/-- The automaton of an expression. Unless its matches are tied to the end of the text at which
it begins to read, it first passes over any bytes. The one that reads forwards records where the
match begins and ends. -/
def automaton (backwards : Bool) (e : Regular) : Automaton :=
  let tied := if backwards then e.isAtEnd else e.isAtStart
  let before := if tied then Plan.joint else .states 3 (3 * stateBytes + 16)
  let body := e.plan backwards
  (Plan.inRow (if backwards then [before, body, .joint] else
    [before, .joint, body, .joint, .joint])).carryOut backwards ⟨0, 0⟩

/-- A bound on the bytes of both automata, for which no table is consulted. -/
def memoryBound : Regular → Nat
  | empty | look _ => 32
  | one (.chars [_]) => 320
  | one s => 164 * (7 * s.runBound + 32) + 320
  | group _ body => body.memoryBound + 64
  | seq first second => first.memoryBound + second.memoryBound
  | alt first second => first.memoryBound + second.memoryBound + 80
  | many body least none _ => (least + 1) * body.memoryBound + 128
  | many body _ (some most) _ => (most + 1) * (body.memoryBound + 40) + 64

def fits (e : Regular) : Bool :=
  e.memoryBound + 208 ≤ Automaton.limit ||
    !(e.automaton false).tooLarge && !(e.automaton true).tooLarge

end Regular

end Highlighting.Pattern
