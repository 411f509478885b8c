import Transports.Resolver.Setup
/-!
# The report

The report surveys the transports of a process: the settings, the versions, the record of every
transport, and a group of four loops on the preferred one. `Report.take` gathers it and
`Report.lines` writes it. A row of an available record names the type in the slot, or has a dash
where the backend has no domain sockets. The group is made to be tried (`Trial`): one loop is taken
from it, and then it is shut down.
-/

namespace Transports

/-- How a group was tried. -/
structure Trial where
  /-- The loop whose turn it was. -/
  first : EventLoop Resource
  /-- The group as it was left. -/
  group : LoopGroup Resource

/-- Takes one loop from a group and shuts the group down. -/
def Trial.of (g : LoopGroup Resource) : Trial :=
  let (first, g) := g.next
  { first, group := g.shutdown.2 }

@[simp] theorem Trial.threadCount_of (g : LoopGroup Resource) :
    (Trial.of g).group.threadCount = g.threadCount :=
  (LoopGroup.threadCount_shutdown g.next.2).trans g.threadCount_next

/-- A trial gives up every handle. -/
@[simp] theorem Trial.held_of (g : LoopGroup Resource) : (Trial.of g).group.held = [] :=
  LoopGroup.held_shutdown g.next.2

/-- What a survey of the transports found. -/
structure Report where
  settings : Settings
  verdict? : Option Verdict
  records : List Capability
  preferred : Capability
  /-- What became of the group on the preferred transport. -/
  group : Except Refusal Trial

namespace Report

/-! ## Gathering -/

def threads : Nat := 4

/-- Resolves every transport, then the preferred one, and tries a group on it. -/
def survey (r : Resolver) (host : Host) : Session Report := do
  let records ← r.records
  let preferred ← r.preferred
  let factory : ThreadFactory := { stem := String.ofList (Text.smallLetters preferred.name) }
  let made ← (preferred.newGroup host threads factory : Act _)
  return {
    settings := r.settings
    verdict? := r.verdict?
    records
    preferred
    group := made.map Trial.of }

/-- The report of a process with an environment on a host. -/
def take (env : Environment) (host : Host) : Act Report := do
  let r ← Setup.build { settings := Settings.ofEnvironment env } host
  (survey r host).run' {}

/-! ## Writing -/

def rule : String :=
  String.ofList (List.replicate 60 '─')

def heading (part : String) : List String :=
  ["", rule, "  " ++ part, rule]

def padded (width : Nat) (s : String) : String :=
  s ++ String.ofList (List.replicate (width - s.length) ' ')

def versionsText : Option Verdict → String
  | none => "check disabled"
  | some .unknown => "unknown"
  | some (.consistent version) => s!"consistent ({version})"
  | some (.inconsistent versions _) => "INCONSISTENT (" ++ ", ".intercalate versions ++ ")"

/-- What stands in the row of a slot. -/
def cell : Except Refusal Handle → String
  | .ok h => h.name
  | .error (.unsupported ..) => "-"
  | .error e => "error: " ++ e.message

def row (c : Capability) (s : Slot) : String :=
  "    " ++ padded 24 s.label ++ " " ++ cell (c.handle s)

def yesNo (b : Bool) : String :=
  if b then "yes" else "no"

def availableLine (c : Capability) : String :=
  "  " ++ padded 10 c.name ++ " available  (domain sockets: " ++ yesNo c.supportsDomainSockets ++
    ")"

def unavailableLine (c : Capability) (cause : Cause) : String :=
  "  " ++ padded 10 c.name ++ " unavailable: " ++ cause.message

def recordLines (c : Capability) : List String :=
  match c.cause? with
  | none => availableLine c :: Slot.all.map (row c)
  | some cause =>
    unavailableLine c cause :: cause.chain.map fun e => "    caused by: " ++ e.message

def groupLine : Except Refusal Trial → String
  | .ok ⟨first, group⟩ =>
    s!"  event loop group: {group.threadCount} loops on {group.transport}, next loop #{first.index}"
  | .error e => "  event loop group: FAILED: " ++ e.message

def availableCount (r : Report) : Nat :=
  r.records.countP (·.isAvailable)

def opening (r : Report) : List String :=
  [s!"=== netcap transport report (v{programVersion}) ===",
   "    transport type: " ++ r.settings.preference.getD "(not set)",
   "    versions: " ++ versionsText r.verdict?]

def lines (r : Report) : List String :=
  r.opening ++
  heading "Part A: Capability records" ++
  r.records.flatMap recordLines ++
  ["", s!"  {r.availableCount} of {Transport.all.length} backends available"] ++
  heading "Part B: Preferred transport" ++
  ["  using " ++ r.preferred.name, groupLine r.group, "", rule]

/-- The report as a text, each line ended by a line feed. -/
def text (r : Report) : String :=
  String.join (r.lines.map (· ++ "\n"))

/-- Zero if the group could be made, one if not. -/
def exitCode (r : Report) : UInt32 :=
  match r.group with
  | .ok _ => 0
  | .error _ => 1

end Report

end Transports
