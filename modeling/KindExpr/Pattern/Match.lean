import KindExpr.Pattern.Program

/-!
# Matching

A program is run on a text by a machine that tries one way at a time. For each other
way it keeps a *detour*, to be taken when the current way fails. What is matched on its
own has its detours to itself: when it ends they are dropped, and the machine goes on
where the *enclosure* of the body says.

What the attempts find is kept in one memory, from which a detour takes back only some
part. The place that was reached last survives a failed attempt, and a repetition that
keeps its iterations goes on from there after the first iteration that fails.
-/

namespace KindExpr
namespace Pattern

/-! ## What is remembered -/

/-- What attempts leave behind. -/
structure Memory where
  /-- The place that was reached last. -/
  reached : Nat
  /-- Where marks were set. -/
  marks : Array (Option Nat)
  /-- How many of the marks count; the others are left over from failed attempts. -/
  count : Nat
  deriving Repr, DecidableEq

/-- What a detour restores: the number of marks that count and, if they can have been
overwritten, the marks. -/
structure Snapshot where
  marks : Option (Array (Option Nat))
  count : Nat
  deriving Repr, DecidableEq

namespace Memory

/-- The memory before matching at a place a pattern with some groups. -/
def start (groups place : Nat) : Memory :=
  ⟨place, Array.replicate (2 * groups) none, 0⟩

/-- Remember a place as the one reached last. -/
def reach (memory : Memory) (place : Nat) : Memory :=
  { memory with reached := place }

/-- Set a mark. Marks between those that counted and this one are cleared. -/
def mark (memory : Memory) (index place : Nat) : Memory :=
  let cleared :=
    (List.range' memory.count (index - memory.count)).foldl
      (fun marks other => marks.setIfInBounds other none) memory.marks
  { memory with
    marks := cleared.setIfInBounds index (some place)
    count := max memory.count (index + 1) }

/-- A mark that counts. -/
def mark? (memory : Memory) (index : Nat) : Option Nat :=
  if index < memory.count then memory.marks[index]?.join else none

/-- Both ends of a group that was entered and left. -/
def ends? (memory : Memory) (group : Nat) : Option (Nat × Nat) :=
  match memory.mark? (Program.startMark group), memory.mark? (Program.endMark group) with
  | some first, some last => some (first, last)
  | _, _ => none

/-- The span of a group, unless it ends before it starts. -/
def span? (memory : Memory) (group : Nat) : Option (Nat × Nat) :=
  (memory.ends? group).filter fun span => span.1 ≤ span.2

/-- Whether no group ends before it starts. -/
def isSound (memory : Memory) (groups : Nat) : Bool :=
  (List.range groups).all fun index =>
    ((memory.ends? (index + 1)).map fun span => decide (span.1 ≤ span.2)).getD true

/-- The memory with all marks, to be restored. -/
def saveAll (memory : Memory) : Snapshot :=
  ⟨some memory.marks, memory.count⟩

/-- The memory to be restored; the marks are only kept within a repetition. -/
def save (memory : Memory) (repeating : Bool) : Snapshot :=
  ⟨if repeating then some memory.marks else none, memory.count⟩

/-- Take back what a snapshot holds. -/
def restore (memory : Memory) (snapshot : Snapshot) : Memory :=
  { memory with marks := snapshot.marks.getD memory.marks, count := snapshot.count }

end Memory

/-! ## The machine -/

/-- A repetition under way. -/
structure Loop where
  isLazy : Bool
  least : Nat
  most : Option Nat
  body : Program
  next : Program
  /-- How many iterations were begun. -/
  begun : Nat
  /-- Where the latest iteration beyond the least count began. -/
  last : Option Nat

/-- The greatest count of a repetition is not reached. -/
def below (count : Nat) (most : Option Nat) : Bool :=
  match most with
  | some bound => count < bound
  | none => true

/-- The loop in its next iteration. -/
def Loop.again (loop : Loop) (last : Option Nat) : Loop :=
  { loop with begun := loop.begun + 1, last := last }

/-- Another iteration may begin at a place: the greatest count is not reached, and the
latest iteration did not begin there. -/
def Loop.mayRepeat (loop : Loop) (place : Nat) : Bool :=
  below loop.begun loop.most && loop.last ≠ some place

/-- Where the machine stands: before a program, at a place, within some loops. -/
structure Stand where
  program : Program
  place : Nat
  loops : List Loop

/-- What to do when the current way fails. -/
inductive Detour where
  /-- Go on elsewhere. -/
  | resume (stand : Stand) (snapshot : Snapshot)
  /-- Remember the place, and fail. -/
  | retreat (place : Nat)
  /-- Give back one of some spare characters of a repetition. -/
  | shorten (spare : Nat) (stand : Stand) (snapshot : Snapshot)
  /-- Take one more character for a repetition that took some. -/
  | lengthen (taken : Nat) (most : Option Nat) (test : CharacterTest) (stand : Stand)
      (snapshot : Snapshot)
  /-- Leave a loop at a place instead of repeating it. -/
  | leave (loop : Loop) (place : Nat) (outer : List Loop) (snapshot : Snapshot)
  /-- Repeat a loop at a place instead of leaving it. -/
  | again (loop : Loop) (place : Nat) (outer : List Loop) (snapshot : Snapshot)

/-- What surrounds a body that is matched on its own, and where to go on after it. -/
inductive Enclosure where
  /-- The first match is kept. Without one the place is remembered again. -/
  | atomic (place : Nat) (next : Program) (loops : List Loop)
  /-- There must be a match. -/
  | look (stand : Stand)
  /-- There must be no match. -/
  | lookNot (stand : Stand) (snapshot : Snapshot)
  /-- An iteration, after some others, of those that a
  repetition from a place on must have. -/
  | must (begun least : Nat) (most : Option Nat) (body : Program) (place : Nat)
      (next : Program) (loops : List Loop)
  /-- An iteration from a place on, after some others, that a repetition may have. -/
  | may (begun : Nat) (most : Option Nat) (body : Program) (place : Nat) (next : Program)
      (loops : List Loop) (snapshot : Snapshot)

/-- A machine at work. -/
structure Machine where
  memory : Memory
  /-- The detours of what is matched on its own, the latest first. -/
  detours : List Detour
  /-- What surrounds it, from the inside out, each with its own detours. -/
  enclosures : List (Enclosure × List Detour)

/-- How a machine goes on. -/
inductive Course where
  /-- It goes on from a stand. -/
  | running (machine : Machine) (stand : Stand)
  /-- The current way failed. -/
  | failing (machine : Machine)
  /-- There is a match, or there is none. -/
  | ended (found : Option Memory)

namespace Machine

/-- Remember a place as the one reached last. -/
def reach (machine : Machine) (place : Nat) : Machine :=
  { machine with memory := machine.memory.reach place }

/-- Take back what a snapshot holds. -/
def restore (machine : Machine) (snapshot : Snapshot) : Machine :=
  { machine with memory := machine.memory.restore snapshot }

/-- Keep a detour. -/
def push (machine : Machine) (detour : Detour) : Machine :=
  { machine with detours := detour :: machine.detours }

/-- Match a body on its own from a place on. -/
def enclose (machine : Machine) (enclosure : Enclosure) (body : Program) (place : Nat)
    (loops : List Loop) : Course :=
  .running
    { machine with
      memory := machine.memory.reach place
      detours := []
      enclosures := (enclosure, machine.detours) :: machine.enclosures }
    ⟨body, place, loops⟩

end Machine

/-! ## Characters and places -/

/-- Whether the character before or at a place belongs to a word. -/
def wordAt (subject : Array Code) (flags : Flags) (place : Nat) : Bool :=
  match subject[place]? with
  | some c => Category.contains flags c .word
  | none => false

/-- Whether a place lies between a word and something else. -/
def atBoundary (subject : Array Code) (flags : Flags) (place : Nat) : Bool :=
  (place > 0 && wordAt subject flags (place - 1)) != wordAt subject flags place

/-- Whether an anchor matches at a place. In the empty text neither a boundary
nor its opposite does. -/
def Anchor.holds (subject : Array Code) (flags : Flags) (place : Nat) : Anchor → Bool
  | .lineStart => place = 0 || (flags.multiLine && subject[place - 1]? = some '\n')
  | .lineEnd =>
      place = subject.size ||
        (subject[place]? = some '\n' && (flags.multiLine || place + 1 = subject.size))
  | .textStart => place = 0
  | .textEnd => place = subject.size
  | .boundary => subject.size > 0 && atBoundary subject flags place
  | .notBoundary => subject.size > 0 && !atBoundary subject flags place

/-- Whether the character at a place passes a test. -/
def passesAt (subject : Array Code) (test : CharacterTest) (place : Nat) : Bool :=
  match subject[place]? with
  | some c => test.passes c
  | none => false

/-- The place after the characters from a place on that pass a test, at most so many. -/
def afterPassing (subject : Array Code) (test : CharacterTest) : (bound place : Nat) → Nat
  | 0, place => place
  | bound + 1, place =>
      if passesAt subject test place then
        afterPassing subject test bound (place + 1)
      else place

/-- The place after the characters that a repetition takes. -/
def afterRun (subject : Array Code) (test : CharacterTest) (most : Option Nat)
    (place : Nat) :
    Nat :=
  let left := subject.size - place
  afterPassing subject test (min left (most.getD left)) place

/-- Match the text of a span again, and give the place after it. -/
def matchAgain? (subject : Array Code) (flags : Flags) :
    (size start place : Nat) → Option Nat
  | 0, _, place => some place
  | size + 1, start, place =>
      match subject[start]?, subject[place]? with
      | some earlier, some now =>
          let same :=
            if flags.ignoreCase then flags.small earlier.toNat = flags.small now.toNat
            else earlier = now
          if same then matchAgain? subject flags size (start + 1) (place + 1) else none
      | _, _ => none

/-- Go back from a place, over at most so many characters, to the first one that passes
a test. What is left of their number is given with the place. -/
def backTo? (subject : Array Code) (test : CharacterTest) :
    (spare place : Nat) → Option (Nat × Nat)
  | 0, place => if passesAt subject test place then some (0, place) else none
  | spare + 1, place =>
      if passesAt subject test place then some (spare + 1, place)
      else backTo? subject test spare (place - 1)

/-- The test on the next character, if a program starts with a literal one. -/
def Program.literal? : Program → Option CharacterTest
  | .take (.code false point) _ => some (.code false point)
  | _ => none

/-- Whether a program cannot go on at a place, as its first character tells. -/
def Program.isBlocked (subject : Array Code) (place : Nat) : Program → Bool
  | .take test _ => test.isPlain && !passesAt subject test place
  | _ => false

/-! ## Steps -/

namespace Machine

/-- Go on after a repetition of one character that took some, of which so many are
spare. Where a literal character must follow, places without it are passed over. -/
def tryShorter (machine : Machine) (subject : Array Code) (spare : Nat) (stand : Stand)
    (snapshot : Snapshot) : Course :=
  let start :=
    match stand.program.literal? with
    | some test => backTo? subject test spare stand.place
    | none => some (spare, stand.place)
  match start with
  | none => .failing machine
  | some (left, place) =>
      let shorter := { stand with place := place }
      .running ((machine.reach place).push (.shorten left shorter snapshot)) shorter

/-- Go on after a lazy repetition of one character that took some. -/
def tryLonger (machine : Machine) (taken : Nat) (most : Option Nat) (test : CharacterTest)
    (stand : Stand) (snapshot : Snapshot) : Course :=
  .running ((machine.reach stand.place).push
    (.lengthen taken most test stand snapshot)) stand

/-- The place remembered while characters are counted: sets without case are matched
one character at a time. -/
def reachRun (machine : Machine) (test : CharacterTest) (first last : Nat) : Machine :=
  machine.reach (if test.isFolded then last else first)

/-- Repeat one character. -/
def startRun (machine : Machine) (subject : Array Code) (greed : Greed) (least : Nat)
    (most : Option Nat) (test : CharacterTest) (next : Program) (place : Nat)
    (loops : List Loop) : Course :=
  if least > subject.size - place then .failing machine
  else
    let snapshot := machine.memory.save (!loops.isEmpty)
    let count (limit : Option Nat) : Nat × Machine :=
      let last := afterRun subject test limit place
      (last, machine.reachRun test place last)
    match greed with
    | .greedy =>
        let (last, counted) := count most
        if last - place < least then .failing counted
        else counted.tryShorter subject (last - place - least)
          ⟨next, last, loops⟩ snapshot
    | .lazy =>
        let (last, counted) := count (some least)
        if last - place < least then .failing counted
        else counted.tryLonger least most test ⟨next, last, loops⟩ snapshot
    | .possessive =>
        let (last, counted) := count most
        if last - place < least then .failing counted
        else .running counted ⟨next, last, loops⟩

/-- Begin an iteration of a loop at a place. -/
def iterate (machine : Machine) (loop : Loop) (place : Nat) (last : Option Nat)
    (outer : List Loop) : Course :=
  .running machine ⟨loop.body, place, loop.again last :: outer⟩

/-- Go on after a loop that ended at a place. -/
def leaveLoop (machine : Machine) (loop : Loop) (place : Nat)
    (outer : List Loop) : Course :=
  .running (machine.push (.retreat place)) ⟨loop.next, place, outer⟩

/-- Decide at a place whether a loop goes on. -/
def continueLoop (machine : Machine) (loop : Loop) (place : Nat) (outer : List Loop) :
    Course :=
  let here := machine.reach place
  if loop.begun < loop.least then
    (here.push (.retreat place)).iterate loop place loop.last outer
  else if loop.isLazy then
    let snapshot := here.memory.save (!outer.isEmpty)
    .running (here.push (.again loop place outer snapshot)) ⟨loop.next, place, outer⟩
  else if loop.mayRepeat place then
    (here.push (.leave loop place outer here.memory.saveAll)).iterate loop place
      (some place)
      outer
  else here.leaveLoop loop place outer

/-- Go on with a repetition that keeps its iterations, of which it has enough. The
latest one that it did not need began at the place `last`. -/
def keepMore (machine : Machine) (begun : Nat) (most : Option Nat) (body next : Program)
    (last : Option Nat) (loops : List Loop) : Course :=
  let place := machine.memory.reached
  if below begun most && last ≠ some place then
    machine.enclose
      (.may begun most body place next loops machine.memory.saveAll) body place
      loops
  else .running machine ⟨next, place, loops⟩

/-- Go on with a repetition from a place on that keeps its iterations. -/
def keepOn (machine : Machine) (begun least : Nat) (most : Option Nat) (body : Program)
    (place : Nat) (next : Program) (loops : List Loop) : Course :=
  if begun < least then
    machine.enclose (.must begun least most body place next loops) body
      machine.memory.reached
      loops
  else machine.keepMore begun most body next none loops

/-- A step from a stand. -/
def step (machine : Machine) (subject : Array Code) (stand : Stand) : Course :=
  let place := stand.place
  let loops := stand.loops
  match stand.program with
  | .finish =>
      let done := machine.reach place
      match machine.enclosures with
      | [] => .ended (some done.memory)
      | (enclosure, detours) :: outer =>
          let back := { done with detours := detours, enclosures := outer }
          match enclosure with
          | .atomic _ next inner => .running back ⟨next, place, inner⟩
          | .look next => .running back next
          | .lookNot _ _ => .failing back
          | .must begun least most body first next inner =>
              back.keepOn (begun + 1) least most body first next inner
          | .may begun most body last next inner _ =>
              back.keepMore (begun + 1) most body next (some last) inner
  | .iterate =>
      match loops with
      | loop :: outer => machine.continueLoop loop place outer
      | [] => .failing machine
  | .fail => .failing machine
  | .take test next =>
      if passesAt subject test place then .running machine ⟨next, place + 1, loops⟩
      else .failing machine
  | .anchor flags anchor next =>
      if anchor.holds subject flags place then .running machine ⟨next, place, loops⟩
      else .failing machine
  | .mark index next =>
      .running { machine with memory := machine.memory.mark index place }
        ⟨next, place, loops⟩
  | .reference flags group next =>
      match machine.memory.span? group with
      | some (first, last) =>
          match matchAgain? subject flags (last - first) first place with
          | some after => .running machine ⟨next, after, loops⟩
          | none => .failing machine
      | none => .failing machine
  | .conditional group yes no =>
      let next := if (machine.memory.span? group).isSome then yes else no
      .running machine ⟨next, place, loops⟩
  | .leave next => .running machine ⟨next, place, loops⟩
  | .choice first others =>
      if first.isBlocked subject place then .running machine ⟨others, place, loops⟩
      else
        let snapshot := machine.memory.save (!loops.isEmpty)
        .running ((machine.reach place).push (.resume ⟨others, place, loops⟩ snapshot))
          ⟨first, place, loops⟩
  | .run greed least most test next =>
      machine.startRun subject greed least most test next place loops
  | .loop isLazy least most body next =>
      machine.continueLoop ⟨isLazy, least, most, body, next, 0, none⟩ place loops
  | .keep least most body next =>
      (machine.reach place).keepOn 0 least most body place next loops
  | .atomic body next => machine.enclose (.atomic place next loops) body place loops
  | .look back negated body next =>
      if back > place then
        if negated then .running machine ⟨next, place, loops⟩ else .failing machine
      else
        let after : Stand := ⟨next, place, loops⟩
        let enclosure :=
          if negated then .lookNot after (machine.memory.save (!loops.isEmpty))
          else .look after
        machine.enclose enclosure body (place - back) loops

/-- A step after the current way failed. -/
def backtrack (machine : Machine) (subject : Array Code) : Course :=
  match machine.detours with
  | detour :: detours =>
      let rest := { machine with detours := detours }
      match detour with
      | .resume stand snapshot => .running (rest.restore snapshot) stand
      | .retreat place => .failing (rest.reach place)
      | .shorten spare stand snapshot =>
          match spare with
          | 0 => .failing (rest.restore snapshot)
          | left + 1 =>
              (rest.restore snapshot).tryShorter subject left
                { stand with place := stand.place - 1 } snapshot
      | .lengthen taken most test stand snapshot =>
          let here := (rest.restore snapshot).reach stand.place
          if passesAt subject test stand.place then
            let counted := here.reachRun test stand.place (stand.place + 1)
            if below taken most then
              counted.tryLonger (taken + 1) most test
                { stand with place := stand.place + 1 }
                snapshot
            else .failing counted
          else .failing here
      | .leave loop place outer snapshot =>
          ((rest.restore snapshot).reach place).leaveLoop loop place outer
      | .again loop place outer snapshot =>
          let here := (rest.restore snapshot).reach place
          if loop.mayRepeat place then
            (here.push (.retreat place)).iterate loop place (some place) outer
          else .failing here
  | [] =>
      match machine.enclosures with
      | [] => .ended none
      | (enclosure, detours) :: outer =>
          let back := { machine with detours := detours, enclosures := outer }
          match enclosure with
          | .atomic place _ _ => .failing (back.reach place)
          | .look _ => .failing back
          | .lookNot stand snapshot => .running (back.restore snapshot) stand
          | .must _ _ _ _ place _ _ => .failing (back.reach place)
          | .may _ _ _ _ next inner snapshot =>
              let kept := back.restore snapshot
              .running kept ⟨next, kept.memory.reached, inner⟩

end Machine

/-- Let a machine run for at most so many steps. -/
def Course.run (subject : Array Code) : Nat → Course → Option Memory
  | _, .ended found => found
  | 0, _ => none
  | budget + 1, .running machine stand => (machine.step subject stand).run subject budget
  | budget + 1, .failing machine => (machine.backtrack subject).run subject budget

/-- A bound on the steps at one place that no search comes near. -/
def stepBudget : Nat := Nat.pow 2 62

/-- Match a program for a pattern with some groups at a place. -/
def Program.matchAt? (program : Program) (groups : Nat) (subject : Array Code)
    (place : Nat) :
    Option Memory :=
  let machine : Machine := ⟨.start groups place, [], []⟩
  (Course.running machine ⟨program, place, []⟩).run subject stepBudget

/-- Match a program at the first of some places in order that allows it. -/
def Program.matchFrom? (program : Program) (groups : Nat) (subject : Array Code) :
    (tries place : Nat) → Option Memory
  | 0, _ => none
  | tries + 1, place =>
      match program.matchAt? groups subject place with
      | some found => some found
      | none => program.matchFrom? groups subject tries (place + 1)

end Pattern
end KindExpr
