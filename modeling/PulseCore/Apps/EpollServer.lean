/-
# The epoll server program

The program reads a port and eight sizes from its arguments, constructs a server with
them that shuts down on SIGINT and SIGTERM, and runs it. Every size must be positive, so
the constructor has nothing to object to: when an accepted command line does not lead to a
running server, a call has failed, and the process is as it was.

What the arguments mean is written down without the loop that reads them. They are sizes
with their numbers, and at most one port, in any order; an option that is given more than
once has the number that comes last.
-/

import PulseCore.Apps.Numbers
import PulseCore.Network.ConstructionLaws

namespace PulseCore.Apps.EpollServer

open PulseCore.Protocol PulseCore.Network

structure ServerConfig where
  port : UInt16 := 9000
  options : EpollEchoServerOptions := {}

/-- The options that take a size, in the order in which the source compares them. -/
inductive SizeOption
  | workers
  | queueCapacity
  | maxConnections
  | maxInFlight
  | maxReadBytes
  | maxWriteBytes
  | maxInputBuffer
  | maxOutputBuffer
  deriving DecidableEq

namespace SizeOption

def all : List SizeOption :=
  [.workers, .queueCapacity, .maxConnections, .maxInFlight, .maxReadBytes, .maxWriteBytes,
    .maxInputBuffer, .maxOutputBuffer]

def name : SizeOption → List Byte
  | .workers => bytesOf "--workers"
  | .queueCapacity => bytesOf "--queue-capacity"
  | .maxConnections => bytesOf "--max-connections"
  | .maxInFlight => bytesOf "--max-in-flight"
  | .maxReadBytes => bytesOf "--max-read-bytes"
  | .maxWriteBytes => bytesOf "--max-write-bytes"
  | .maxInputBuffer => bytesOf "--max-input-buffer"
  | .maxOutputBuffer => bytesOf "--max-output-buffer"

/-- The option that an argument is, if it is one. -/
def find (argument : List Byte) : Option SizeOption :=
  all.find? fun option => argument = option.name

end SizeOption

namespace ServerConfig

def setSize (config : ServerConfig) (value : ℕ) : SizeOption → ServerConfig
  | .workers => { config with options.workerCount := value }
  | .queueCapacity => { config with options.workQueueCapacity := value }
  | .maxConnections => { config with options.maxConnections := value }
  | .maxInFlight => { config with options.maxInFlightRequestsPerConnection := value }
  | .maxReadBytes => { config with options.maxReadBytesPerEvent := value }
  | .maxWriteBytes => { config with options.maxWriteBytesPerEvent := value }
  | .maxInputBuffer => { config with options.connectionLimits.maxInputBuffer := value }
  | .maxOutputBuffer => { config with options.connectionLimits.maxOutputBuffer := value }

end ServerConfig

def parsePort (text : List Byte) : Except AppError UInt16 := Client.parsePort text

def parsePositiveSize (option text : List Byte) : Except AppError UInt64 :=
  Benchmark.parsePositiveSize option text

/-- The loop of `ParseArgs`. -/
def parseOptions (config : ServerConfig) (portSet : Bool) :
    List (List Byte) → Except AppError ServerConfig
  | [] => .ok config
  | argument :: args =>
      match SizeOption.find argument with
      | some option =>
          match args with
          | [] => .error (.runtimeError (argument ++ bytesOf " requires a value"))
          | text :: args =>
              match parsePositiveSize argument text with
              | .error error => .error error
              | .ok value => parseOptions (config.setSize value.toNat option) portSet args
      | none =>
          if argument.head?.any isMinus then
            .error (.runtimeError (bytesOf "unknown option: " ++ argument))
          else if portSet then .error (.runtimeError (bytesOf "port specified more than once"))
          else
            match parsePort argument with
            | .error error => .error error
            | .ok port => parseOptions { config with port } true args

def parseArgs (argv : List (List Byte)) : Except AppError ServerConfig :=
  parseOptions {} false argv.tail

/-- SIGINT and SIGTERM. -/
def kShutdownSignals : List ℕ := [2, 15]

/-- How far `main` gets before `Run`. -/
inductive Start
  | help
  | refused (error : AppError)
  | failed (error : ConstructionError)
  | running (server : Members)

def main (argv : List (List Byte)) (p : Process) : Start × Process :=
  if argv.length = 2 ∧ argv.getLast? = some (bytesOf "--help") then (.help, p)
  else
    match parseArgs argv with
    | .error error => (.refused error, p)
    | .ok config =>
        let options := { config.options with shutdownSignals := kShutdownSignals }
        match Members.construct config.port options true p with
        | .error error p => (.failed error, p)
        | .ok server p => (.running server.value, p)

/-! ## What the arguments say -/

inductive Assignment
  | size (option : SizeOption) (value : UInt64)
  | port (port : UInt16)

def Assignment.sizeOf (option : SizeOption) : Assignment → Option ℕ
  | .size other value => if other = option then some value.toNat else none
  | .port _ => none

def Assignment.portOf : Assignment → Option UInt16
  | .size _ _ => none
  | .port number => some number

/-- The arguments are these assignments. -/
inductive Spelled : List (List Byte) → List Assignment → Prop
  | nil : Spelled [] []
  | size {text : List Byte} {value : UInt64} {args : List (List Byte)}
      {assignments : List Assignment} (option : SizeOption) (hnumber : Accepted text value)
      (hpositive : value ≠ 0) (hrest : Spelled args assignments) :
      Spelled (option.name :: text :: args) (.size option value :: assignments)
  | port {text : List Byte} {value : UInt64} {args : List (List Byte)}
      {assignments : List Assignment} (hnumber : Accepted text value)
      (hrange : value.toNat < 2 ^ 16) (hrest : Spelled args assignments) :
      Spelled (text :: args) (.port value.toUInt16 :: assignments)

/-- The arguments that are accepted. -/
def CommandLine (args : List (List Byte)) (assignments : List Assignment) : Prop :=
  Spelled args assignments ∧ (assignments.filterMap Assignment.portOf).length ≤ 1

/-- The size in the options that an option of the command line is about. -/
def sizeIn (options : EpollEchoServerOptions) : SizeOption → ℕ
  | .workers => options.workerCount
  | .queueCapacity => options.workQueueCapacity
  | .maxConnections => options.maxConnections
  | .maxInFlight => options.maxInFlightRequestsPerConnection
  | .maxReadBytes => options.maxReadBytesPerEvent
  | .maxWriteBytes => options.maxWriteBytesPerEvent
  | .maxInputBuffer => options.connectionLimits.maxInputBuffer
  | .maxOutputBuffer => options.connectionLimits.maxOutputBuffer

/-- The sizes and the port are the last ones that were given, or those that the program
starts from. -/
structure AsTold (assignments : List Assignment) (port : UInt16)
    (options : EpollEchoServerOptions) : Prop where
  port : port = ((assignments.filterMap Assignment.portOf).getLast?).getD 9000
  size : ∀ option, sizeIn options option =
    ((assignments.filterMap (Assignment.sizeOf option)).getLast?).getD (sizeIn {} option)
  handler : options.handler = defaultHandler

namespace SizeOption

theorem find_name (option : SizeOption) : find option.name = some option := by
  cases option <;> decide +kernel

theorem eq_name_of_find {argument : List Byte} {option : SizeOption}
    (hfind : find argument = some option) : argument = option.name := by
  have hequal := List.find?_some hfind
  exact of_decide_eq_true hequal

theorem head_name (option : SizeOption) : option.name.head? = some 0x2D := by
  cases option <;> decide +kernel

end SizeOption

/-- One assignment. -/
def ServerConfig.assign (config : ServerConfig) : Assignment → ServerConfig
  | .size option value => config.setSize value.toNat option
  | .port port => { config with port }

variable {config result : ServerConfig} {portSet : Bool} {args : List (List Byte)}
  {assignments : List Assignment}

/-- How many ports there are, with the one that was there before. -/
def portCount (portSet : Bool) (assignments : List Assignment) : ℕ :=
  (assignments.filterMap Assignment.portOf).length + portSet.toNat

/-- What the loop accepts is spelled out in the arguments. -/
theorem spelled_of_parseOptions (hparse : parseOptions config portSet args = .ok result) :
    ∃ assignments, Spelled args assignments ∧ portCount portSet assignments ≤ 1 ∧
      result = assignments.foldl ServerConfig.assign config := by
  fun_induction parseOptions config portSet args with
  | case1 config portSet =>
      cases hparse
      refine ⟨[], .nil, ?_, rfl⟩
      cases portSet <;> decide
  | case2 | case3 | case5 | case6 | case7 => cases hparse
  | case4 config portSet argument option hfind text args value hvalue ih =>
      obtain ⟨assignments, hspelled, hports, rfl⟩ := ih hparse
      obtain ⟨haccepted, hpositive⟩ := (parsePositiveSize_eq_ok_iff argument).mp hvalue
      rw [SizeOption.eq_name_of_find hfind]
      exact ⟨.size option value :: assignments, .size option haccepted hpositive hspelled, hports,
        rfl⟩
  | case8 config portSet argument args hfind hoption hport port hvalue ih =>
      obtain ⟨assignments, hspelled, hports, rfl⟩ := ih hparse
      obtain ⟨value, haccepted, hrange, rfl⟩ := parsePort_eq_ok_iff.mp hvalue
      refine ⟨.port value.toUInt16 :: assignments, .port haccepted ?_ hspelled, ?_, rfl⟩
      · rw [gt_iff_lt, UInt64.lt_iff_toNat_lt, Nat.not_lt] at hrange
        exact Nat.lt_succ_of_le hrange
      · rw [Bool.not_eq_true] at hport
        rw [hport]
        exact hports

/-- What is spelled out in the arguments is accepted. -/
theorem parseOptions_of_spelled (hspelled : Spelled args assignments) (config : ServerConfig)
    (portSet : Bool) (hports : portCount portSet assignments ≤ 1) :
    parseOptions config portSet args = .ok (assignments.foldl ServerConfig.assign config) := by
  induction hspelled generalizing config portSet with
  | nil => rfl
  | size option hnumber hpositive hrest ih =>
      have hvalue := (parsePositiveSize_eq_ok_iff option.name).mpr ⟨hnumber, hpositive⟩
      rw [parseOptions, SizeOption.find_name]
      simp only [parsePositiveSize, hvalue]
      exact ih _ _ hports
  | @port text value args assignments hnumber hrange hrest ih =>
      have hfind : SizeOption.find text = none := by
        cases hfind : SizeOption.find text with
        | none => rfl
        | some option =>
            have hhead := option.head_name
            rw [← SizeOption.eq_name_of_find hfind] at hhead
            exact absurd hhead hnumber.2
      have hoption : text.head?.any isMinus = false := by
        cases text with
        | nil => rfl
        | cons byte rest =>
            have hhead := hnumber.2
            rw [List.head?_cons, ne_eq, Option.some.injEq] at hhead
            exact decide_eq_false hhead
      have hunset : portSet = false := by
        cases portSet with
        | false => rfl
        | true => exact absurd hports (by simp [portCount, Assignment.portOf])
      subst hunset
      have hport : parsePort text = .ok value.toUInt16 := by
        refine parsePort_eq_ok_iff.mpr ⟨value, hnumber, ?_, rfl⟩
        rw [gt_iff_lt, UInt64.lt_iff_toNat_lt, Nat.not_lt]
        exact Nat.le_of_lt_succ hrange
      rw [parseOptions, hfind]
      simp only [hoption, hport, Bool.false_eq_true, if_false]
      exact ih _ _ hports

theorem sizeIn_setSize (config : ServerConfig) (value : ℕ) (option other : SizeOption) :
    sizeIn (config.setSize value option).options other =
      if option = other then value else sizeIn config.options other := by
  cases option <;> cases other <;> rfl

/-- Setting a size changes nothing else. -/
theorem setSize_rest (config : ServerConfig) (value : ℕ) (option : SizeOption) :
    (config.setSize value option).port = config.port ∧
      (config.setSize value option).options.handler = config.options.handler := by
  cases option <;> exact ⟨rfl, rfl⟩

/-- The assignments, one behind the other, leave the last values. -/
theorem asTold_foldl (assignments : List Assignment) :
    AsTold assignments (assignments.foldl ServerConfig.assign {}).port
      (assignments.foldl ServerConfig.assign {}).options := by
  induction assignments using List.reverseRecOn with
  | nil => exact ⟨rfl, fun option => rfl, rfl⟩
  | append_singleton assignments assignment ih =>
      rw [List.foldl_append, List.foldl_cons, List.foldl_nil]
      generalize assignments.foldl ServerConfig.assign {} = config at ih ⊢
      cases assignment with
      | size option value =>
          obtain ⟨hport, hhandler⟩ := setSize_rest config value.toNat option
          refine ⟨?_, fun other => ?_, hhandler.trans ih.handler⟩
          · rw [List.filterMap_append]
            simp only [List.filterMap_cons, Assignment.portOf, List.filterMap_nil, List.append_nil]
            exact hport.trans ih.port
          · rw [List.filterMap_append]
            show sizeIn (config.setSize value.toNat option).options other = _
            rw [sizeIn_setSize]
            by_cases hsame : option = other
            · simp [Assignment.sizeOf, hsame]
            · simp only [List.filterMap_cons, Assignment.sizeOf, if_neg hsame, List.filterMap_nil,
                List.append_nil]
              exact ih.size other
      | port port =>
          refine ⟨?_, fun option => ?_, ih.handler⟩
          · rw [List.filterMap_append]
            simp [ServerConfig.assign, Assignment.portOf]
          · rw [List.filterMap_append]
            simp only [List.filterMap_cons, Assignment.sizeOf, List.filterMap_nil, List.append_nil]
            exact ih.size option

/-! ## The server of a command line -/

theorem Spelled.size_pos (h : Spelled args assignments) {option : SizeOption} {size : ℕ}
    (hmem : size ∈ assignments.filterMap (Assignment.sizeOf option)) : 0 < size := by
  induction h with
  | nil => cases hmem
  | port _ _ _ ih => exact ih hmem
  | @size text value args assignments other hnumber hpositive hrest ih =>
      rw [List.filterMap_cons, Assignment.sizeOf] at hmem
      split at hmem
      · exact ih hmem
      · next found hfound =>
          split at hfound
          · cases hfound
            rcases List.mem_cons.mp hmem with rfl | hlater
            · exact Nat.pos_of_ne_zero fun hzero => hpositive (UInt64.toNat_inj.mp hzero)
            · exact ih hlater
          · cases hfound

/-- No size of an accepted command line is zero. -/
theorem AsTold.size_pos {port : UInt16} {options : EpollEchoServerOptions}
    (htold : AsTold assignments port options) (hspelled : Spelled args assignments)
    (option : SizeOption) : 0 < sizeIn options option := by
  rw [htold.size option]
  cases hlast : (assignments.filterMap (Assignment.sizeOf option)).getLast? with
  | none => cases option <;> decide
  | some size => exact hspelled.size_pos (List.mem_of_getLast? hlast)

theorem requirePositiveBudget_of_pos {value : ℕ} (hpos : 0 < value) (name : String) :
    requirePositiveBudget value name = .ok ⟨hpos⟩ := dif_neg (Nat.pos_iff_ne_zero.mp hpos)

/-- The constructor refuses nothing else. -/
theorem create_of_size_pos {options : EpollEchoServerOptions}
    (hpos : ∀ option, 0 < sizeIn options option) :
    ∃ config, Network.ServerConfig.create options = .ok config := by
  have hinput : 0 < options.connectionLimits.maxInputBuffer := hpos .maxInputBuffer
  have houtput : 0 < options.connectionLimits.maxOutputBuffer := hpos .maxOutputBuffer
  have hread : 0 < options.maxReadBytesPerEvent := hpos .maxReadBytes
  have hwrite : 0 < options.maxWriteBytesPerEvent := hpos .maxWriteBytes
  have hconnections : 0 < options.maxConnections := hpos .maxConnections
  have hinFlight : 0 < options.maxInFlightRequestsPerConnection := hpos .maxInFlight
  have hcapacity : 0 < options.workQueueCapacity := hpos .queueCapacity
  have hworkers : 0 < options.workerCount := hpos .workers
  refine ⟨⟨options, hinput, houtput, hread, hwrite, hconnections, hinFlight, hcapacity,
    hworkers⟩, ?_⟩
  rw [Network.ServerConfig.create, requirePositiveBudget_of_pos hinput,
    requirePositiveBudget_of_pos houtput, requirePositiveBudget_of_pos hread,
    requirePositiveBudget_of_pos hwrite, requirePositiveBudget_of_pos hconnections,
    requirePositiveBudget_of_pos hinFlight, requirePositiveBudget_of_pos hcapacity,
    requirePositiveBudget_of_pos hworkers]
  rfl

/-- The signals are set behind the arguments. -/
theorem AsTold.shutdownSignals {port : UInt16} {options : EpollEchoServerOptions}
    (htold : AsTold assignments port options) (shutdownSignals : List ℕ) :
    AsTold assignments port { options with shutdownSignals } := by
  refine ⟨htold.port, fun option => ?_, htold.handler⟩
  have hsame : sizeIn { options with shutdownSignals } option = sizeIn options option := by
    cases option <;> rfl
  exact hsame.trans (htold.size option)

/-- For any arguments and any process: the usage is printed for `--help` only; arguments are
refused exactly when they are no command line, and then nothing has happened to the process.
For a command line the program constructs a server on the port and with the sizes that it
says, with the last one of each where there are several, and with as many workers, which
leave SIGINT and SIGTERM to the reactor; unless a call fails, and then the exception is the
error of that call, or the command line asks for more workers than a vector can hold; and
then the process is as it was. -/
theorem main_as_told (argv : List (List Byte)) (p : Process) :
    match main argv p with
    | (.help, q) => (∃ program, argv = [program, bytesOf "--help"]) ∧ q = p
    | (.refused _, q) => (∀ assignments, ¬ CommandLine argv.tail assignments) ∧ q = p
    | (.failed exception, q) => p.Same q ∧ ∃ assignments port options,
        CommandLine argv.tail assignments ∧ AsTold assignments port options ∧
        ((∃ error, .failed error ∈ p.answers ∧
          (exception = .systemError error ∨ exception = .badAlloc ∨
            ∃ operation, exception = .exception (.syscallError operation error))) ∨
        (kMaxVectorSize < options.workerCount ∧ exception = .lengthError "vector::reserve"))
    | (.running server, q) => ∃ assignments port, CommandLine argv.tail assignments ∧
        AsTold assignments port server.config.options ∧
        server.port = (if port = 0 then p.ephemeralPort else port) ∧
        server.config.options.shutdownSignals = kShutdownSignals ∧
        server.workers.threads.length = server.config.options.workerCount ∧
        server.config.options.workerCount ≤ kMaxVectorSize ∧
        q.mask = p.mask ∪ {2, 15} ∧ ∀ thread ∈ server.workers.threads, thread.mask = q.mask := by
  by_cases hhelp : argv.length = 2 ∧ argv.getLast? = some (bytesOf "--help")
  · rw [main, if_pos hhelp]
    obtain ⟨hlength, hlast⟩ := hhelp
    obtain ⟨program, argument, rfl⟩ := List.length_eq_two.mp hlength
    cases hlast
    exact ⟨⟨program, rfl⟩, rfl⟩
  rw [main, if_neg hhelp]
  cases hparse : parseArgs argv with
  | error error =>
      refine ⟨?_, rfl⟩
      rintro assignments ⟨hspelled, hports⟩
      have haccepted := parseOptions_of_spelled hspelled {} false hports
      rw [parseArgs, haccepted] at hparse
      cases hparse
  | ok config =>
      obtain ⟨assignments, hspelled, hports, rfl⟩ := spelled_of_parseOptions hparse
      have htold := asTold_foldl assignments
      generalize assignments.foldl ServerConfig.assign {} = config at htold ⊢
      replace htold := htold.shutdownSignals kShutdownSignals
      obtain ⟨accepted, hcreate⟩ := create_of_size_pos (htold.size_pos hspelled)
      dsimp only
      generalize htoldOptions :
        { config.options with shutdownSignals := kShutdownSignals } = options at htold hcreate ⊢
      have hrestores := Members.restores_construct config.port options true p
      have hexplains := Members.explains_construct config.port options true p
      cases hcall : Members.construct config.port options true p with
      | error exception q =>
          rw [hcall] at hrestores hexplains
          refine ⟨hrestores, assignments, config.port, options, ⟨hspelled, hports⟩, htold, ?_⟩
          cases hexplains with
          | @call error operation hfailed =>
              exact .inl ⟨error, hfailed, .inr (.inr ⟨operation, rfl⟩)⟩
          | @thread error hfailed => exact .inl ⟨error, hfailed, .inl rfl⟩
          | @memory error hfailed => exact .inl ⟨error, hfailed, .inr (.inl rfl)⟩
          | refused hrefused =>
              rw [hcreate] at hrefused
              cases hrefused
          | noHandler hunset => cases hunset
          | tooMany hcount => exact .inr ⟨hcount, rfl⟩
      | ok server q =>
          have hconstructed := Members.construct_eq_ok hcall
          have hoptions := Members.options_of_create hconstructed.config
          dsimp only
          rw [hoptions]
          have hsignals : options.shutdownSignals = kShutdownSignals := by rw [← htoldOptions]
          refine ⟨assignments, config.port, ⟨hspelled, hports⟩, htold, hconstructed.port, hsignals,
            hconstructed.count, hconstructed.room, ?_, hconstructed.blocked⟩
          rw [hconstructed.mask, hsignals]
          rfl

end PulseCore.Apps.EpollServer
