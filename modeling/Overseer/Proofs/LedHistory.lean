import Overseer.Proofs.Boot

/-!
# The LED after a history of orders

A LED remembers what it was last told, and its pin keeps the level of the last write that was taken.
The two are separate: an action that the LED was told counts for the memory even if the pin failed.
`Led.Told` relates both to the orders since the LED was made, and each operation of the LED keeps
the relation. In a boot the orders come from the passes. A pass that runs the LED command gives the
order that the argument denotes, or none if it is refused; a pass that runs another command gives
what its handler tells the LED (`Supervisor.orders`). Nothing else that a pass does, and nothing
beside it, gives any order, so the LED and its telemetry follow from the orders alone
(`Boot.led_follows`).
-/
namespace Overseer

/-! ### What a LED was told -/

namespace Led

/-- An action that a LED was told, and whether its pin failed then. -/
structure Order where
  /-- The action. -/
  action : LedAction
  /-- Whether writes failed. -/
  failing : Bool
deriving DecidableEq, Repr

/-- A write to the pin of a LED. -/
structure Write where
  /-- Whether the LED was to be on. -/
  on : Bool
  /-- Whether the write was taken. -/
  taken : Bool
deriving DecidableEq, Repr

/-- Whether the LED is to be on after orders, given whether it is on before. -/
def litFrom (isOn : Bool) (orders : List Order) : Bool :=
  orders.foldl (fun isOn order => order.action.target isOn) isOn

/-- Whether a LED that starts off is to be on after orders. -/
def lit (orders : List Order) : Bool := litFrom false orders

/-- The writes of orders, one each, given whether the LED is on before. -/
def writesFrom (isOn : Bool) : List Order → List Write
  | [] => []
  | order :: rest =>
    ⟨order.action.target isOn, !order.failing⟩ :: writesFrom (order.action.target isOn) rest

/-- The writes to a pin: the one to off, when the LED was made, and those of the orders since. -/
def writes (pin : Pin) (orders : List Order) : List Write :=
  ⟨false, !pin.failing⟩ :: writesFrom false orders

/-- The level after writes: what the last one that was taken asked for, or else the level
before. -/
def level (pin : Pin) (activeLow : Bool) (writes : List Write) : Bool :=
  match (writes.filter Write.taken).getLast? with
  | none => pin.high
  | some write => write.on != activeLow

/-- A LED that was made on a pin, and then given orders. -/
structure Told (pin : Pin) (activeLow : Bool) (orders : List Order) (led : Led) : Prop where
  polarity : led.activeLow = activeLow
  isOn : led.isOn = lit orders
  count : led.pin.writes = pin.writes + (writes pin orders).length
  high : led.pin.high = level pin activeLow (writes pin orders)

/-- A further order makes a further write. -/
theorem writesFrom_append (isOn : Bool) (orders : List Order) (order : Order) :
    writesFrom isOn (orders ++ [order]) =
      writesFrom isOn orders ++ [⟨order.action.target (litFrom isOn orders), !order.failing⟩] := by
  induction orders generalizing isOn with
  | nil => rfl
  | cons first rest ih => exact congrArg (_ :: ·) (ih _)

/-- A further order makes a further write. -/
theorem writes_append (pin : Pin) (orders : List Order) (order : Order) :
    writes pin (orders ++ [order]) =
      writes pin orders ++ [⟨order.action.target (lit orders), !order.failing⟩] := by
  rw [writes, writesFrom_append, writes, List.cons_append, lit]

/-- There is one write more than there are orders. -/
@[simp] theorem length_writes (pin : Pin) (orders : List Order) :
    (writes pin orders).length = orders.length + 1 := by
  have all (isOn : Bool) : (writesFrom isOn orders).length = orders.length := by
    induction orders generalizing isOn with
    | nil => rfl
    | cons first rest ih => exact congrArg (· + 1) (ih _)
  rw [writes, List.length_cons, all]

/-- A further order decides whether the LED is on. -/
theorem lit_append (orders : List Order) (order : Order) :
    lit (orders ++ [order]) = order.action.target (lit orders) := by
  rw [lit, litFrom, List.foldl_append]
  rfl

/-- A further write decides the level if it is taken, and changes nothing otherwise. -/
theorem level_append (pin : Pin) (activeLow : Bool) (writes : List Write) (write : Write) :
    level pin activeLow (writes ++ [write]) =
      if write.taken then write.on != activeLow else level pin activeLow writes := by
  rw [level, List.filter_append]
  cases taken : write.taken with
  | true => simp [taken]
  | false => simp [taken, level]

/-- The last write is to whether the LED is to be on. -/
theorem on_of_last {pin : Pin} {orders : List Order} {write : Write}
    (last : (writes pin orders).getLast? = some write) : write.on = lit orders := by
  rcases List.eq_nil_or_concat orders with rfl | ⟨earlier, order, rfl⟩
  · cases last
    rfl
  · rw [List.concat_eq_append] at last ⊢
    rw [writes_append, List.getLast?_concat] at last
    rw [lit_append, ← Option.some.inj last]

/-- A LED that is told to be on or off remembers it, and its pin is written once. -/
theorem set_value (led : Led) (on : Bool) : (led.set on).value =
    { led with pin := (led.pin.write (on != led.activeLow)).2, isOn := on } := by
  unfold set
  cases taken : (led.pin.write (on != led.activeLow)).1 <;> simp [taken]

namespace Told

variable {pin : Pin} {activeLow : Bool} {orders : List Order} {led : Led}

/-- A LED that was just made was given no orders. -/
theorem onPin (pin : Pin) (activeLow : Bool) :
    Told pin activeLow [] (Led.onPin pin activeLow).value := by
  rw [Led.onPin, set_value]
  refine ⟨rfl, rfl, rfl, ?_⟩
  cases failing : pin.failing <;> simp [Pin.write, level, writes, writesFrom, failing]

/-- An action is a further order. -/
theorem perform (told : Told pin activeLow orders led) (action : LedAction) :
    Told pin activeLow (orders ++ [⟨action, led.pin.failing⟩]) (led.perform action).value := by
  rw [Led.perform, set_value, told.polarity, told.isOn]
  refine ⟨rfl, (lit_append orders ⟨action, led.pin.failing⟩).symm, ?_, ?_⟩
  · rw [writes_append, List.length_append, ← Nat.add_assoc, ← told.count]
    rfl
  · rw [writes_append, level_append, ← told.high]
    cases failing : led.pin.failing <;> simp [Pin.write, failing]

/-- Actions are further orders. -/
theorem performs (told : Told pin activeLow orders led) (actions : List LedAction) :
    Told pin activeLow (orders ++ actions.map (⟨·, led.pin.failing⟩))
      (actions.foldl (fun led action => (led.perform action).value) led) := by
  induction actions generalizing orders led with
  | nil =>
    rw [List.map_nil, List.append_nil]
    exact told
  | cons action rest ih =>
    -- Whether the pin fails does not depend on what is written to it.
    have same : (led.perform action).value.pin.failing = led.pin.failing := by
      rw [Led.perform, set_value]
      rfl
    have later := ih (told.perform action)
    rw [same, List.append_assoc] at later
    exact later

/-- A pin that begins to fail, or recovers, is no order. -/
theorem failing (told : Told pin activeLow orders led) (failing : Bool) :
    Told pin activeLow orders { led with pin := { led.pin with failing } } :=
  ⟨told.polarity, told.isOn, told.count, told.high⟩

/-- When the last write was taken, the level is that of the memory. -/
theorem agrees (told : Told pin activeLow orders led) :
    ∀ write ∈ (writes pin orders).getLast?, write.taken = true →
      led.pin.high = (led.isOn != activeLow) := by
  intro write last taken
  obtain ⟨earlier, same⟩ := List.getLast?_eq_some_iff.mp last
  rw [told.high, same, level_append, if_pos taken, told.isOn, on_of_last last]

end Told

end Led

/-! ### What a program tells the LED -/

namespace Program

variable {role : Role} {α : Type}

/-- What running a program tells the LED, in order. -/
def orders (actor : Actor) : Program role α → Environment → List LedAction
  | .done _, _ => []
  | .log line next, environment => next.orders actor (environment.say [line])
  | .clock next, environment => (next environment.board.clock).orders actor environment
  | .inspect next, environment => (next environment.view).orders actor environment
  | .elapse milliseconds next, environment =>
    next.orders actor { environment with board := environment.board.elapse milliseconds }
  | .notify events next, environment => next.orders actor (environment.notify actor events)
  | .submit id args next, environment =>
    let done := environment.submit actor id args
    (next done.1).orders actor done.2
  | .commands _ next, environment =>
    let listing := environment.listing
    (next listing).orders actor (environment.note (.listed actor (listing.map Prod.fst)))
  | .requestRestart _ next, environment =>
    next.orders actor ({ environment with restartPending := true }.note (.restartRequested actor))
  | .bootCounter _ next, environment =>
    let done := environment.board.bootCounter
    (next done.1).orders actor { environment with board := done.2 }
  | .setBootCounter _ value next, environment =>
    let done := environment.board.setBootCounter actor value
    (next done.1).orders actor { environment with board := done.2 }
  | .load _ next, environment =>
    let done := environment.board.load
    (next done.1).orders actor { environment with board := done.2 }
  | .save _ config next, environment =>
    let done := environment.board.save actor config
    (next done.1).orders actor { environment with board := done.2 }
  | .override _ overrides next, environment =>
    let done := environment.board.override actor overrides
    (next done.1).orders actor { environment with board := done.2 }
  | .resetConfig _ next, environment =>
    let done := environment.board.resetConfig actor
    (next done.1).orders actor { environment with board := done.2 }
  | .driveLed _ action next, environment =>
    let board := environment.board.driveLed action
    action :: (next board.led.isOn).orders actor { environment with board }

/-- A run changes the LED as it tells it to, and not otherwise. -/
theorem led_run (actor : Actor) (program : Program role α) (environment : Environment) :
    (program.run actor environment).2.board.led =
      (program.orders actor environment).foldl (fun led action => (led.perform action).value)
        environment.board.led := by
  induction program generalizing environment with
  | done value => rfl
  | log line next ih => exact ih _
  | clock next ih => exact ih _ _
  | inspect next ih => exact ih _ _
  | elapse milliseconds next ih => exact ih _
  | notify events next ih => exact ih _
  | submit id args next ih => exact ih _ _
  | commands role next ih => exact ih _ _
  | requestRestart role next ih => exact ih _
  | bootCounter role next ih => exact ih _ _
  | setBootCounter role value next ih => exact ih _ _
  | load role next ih => exact ih _ _
  | save role config next ih => exact ih _ _
  | override role overrides next ih => exact ih _ _
  | resetConfig role next ih => exact ih _ _
  | driveLed role action next ih => exact ih _ _

end Program

/-- The LED command tells the LED what its argument denotes, and nothing if it denotes nothing. -/
theorem Core.orders_onboardLed (args : Option String) (actor : Actor) (environment : Environment) :
    (onboardLed args).orders actor environment = (args.bind LedAction.ofArgument?).toList := by
  unfold onboardLed
  cases args.bind LedAction.ofArgument? <;> rfl

/-! ### What leaves the LED alone -/

namespace Detector

/-- Deciding the mode leaves the LED alone. -/
theorem led_evaluateBoot (detector : Detector) (reason : ResetReason) (board : Board) :
    (detector.evaluateBoot reason board).2.led = board.led := by
  have counted : (countReset reason board).2.led = board.led := by
    unfold countReset
    dsimp only
    split
    · split
      all_goals
        rename_i stored
        exact (congrArg (·.2.led) stored).symm
    · rfl
  exact counted

/-- So does validating the firmware. -/
theorem led_validateFirmware (detector : Detector) (board : Board) :
    (detector.validateFirmware board).2.led = board.led := by
  unfold validateFirmware
  split
  · rfl
  · dsimp only
    split
    · rename_i asked
      have same := congrArg (·.2.led) asked
      split
      all_goals
        rename_i marked
        exact (congrArg (·.2.led) marked).symm.trans same.symm
    all_goals
      rename_i asked
      exact (congrArg (·.2.led) asked).symm

/-- So does clearing the counter. -/
theorem led_clearCounter (detector : Detector) (uptime : UInt64) (board : Board) :
    (detector.clearCounter uptime board).2.led = board.led := by
  unfold clearCounter
  split
  all_goals
    rename_i stored
    exact (congrArg (·.2.led) stored).symm

/-- So does the work of a due stage. -/
theorem led_onInterval (detector : Detector) (stage : Stage) (uptime : UInt64) (board : Board) :
    (detector.onInterval stage uptime board).2.led = board.led := by
  let checked :=
    if stage = detector.validationStage then detector.validateFirmware board else (detector, board)
  have validated : checked.2.led = board.led := by
    dsimp only [checked]
    split
    · exact detector.led_validateFirmware board
    · rfl
  have worked : (detector.onInterval stage uptime board).2.led = checked.2.led := by
    change (if checked.1.clears stage uptime then checked.1.clearCounter uptime checked.2
      else checked).2.led = checked.2.led
    split
    · exact checked.1.led_clearCounter uptime checked.2
    · rfl
  exact worked.trans validated

end Detector

/-- What happens beside the loop spares the telemetry entries, and all of the LED but whether its
pin fails. -/
theorem Environment.led_undergo (environment : Environment) (occurrence : Occurrence) :
    (environment.undergo occurrence).hub.telemetry = environment.hub.telemetry ∧
      ∃ failing, (environment.undergo occurrence).board.led =
        { environment.board.led with pin := { environment.board.led.pin with failing } } := by
  cases occurrence with
  | faults faults => exact ⟨rfl, faults.pin, rfl⟩
  | submit actor id args => exact ⟨(environment.hub.tables_submit id args).2, _, rfl⟩
  | log | clock | notify => exact ⟨rfl, _, rfl⟩

/-- A step left the LED alone, and the telemetry entries. -/
structure SparesLed (before after : Environment) : Prop where
  led : after.board.led = before.board.led
  telemetry : after.hub.telemetry = before.hub.telemetry

namespace SparesLed

/-- Sparing the LED is transitive. -/
theorem trans (first second third : Environment) (earlier : SparesLed first second)
    (later : SparesLed second third) : SparesLed first third :=
  ⟨later.led.trans earlier.led, later.telemetry.trans earlier.telemetry⟩

/-- Every step of the loop itself spares the LED. -/
theorem covers : Covers SparesLed where
  say _ _ := ⟨rfl, rfl⟩
  call _ _ _ := ⟨rfl, rfl⟩
  operation _ _ before _ isCallback operation := by
    cases operation with
    | log | clock | inspect | elapse | notify => exact ⟨rfl, rfl⟩
    | submit _ id args => exact ⟨rfl, (before.hub.tables_submit id args).2⟩
    | _ => exact isCallback.elim
  refl _ := ⟨rfl, rfl⟩
  notify _ _ := ⟨rfl, rfl⟩
  takeEvents _ := ⟨rfl, rfl⟩
  withdraw _ := ⟨rfl, rfl⟩
  restart _ := ⟨rfl, rfl⟩
  boot loop environment := by
    refine ⟨?_, congrArg Hub.telemetry (loop.supervisor environment).evaluateBoot_booted.hub⟩
    have decided := loop.detector.led_evaluateBoot environment.board.resetReason environment.board
    unfold Supervisor.evaluateBoot
    dsimp only
    split
    · exact (Detector.led_validateFirmware _ _).trans decided
    · exact decided
  hook environment detector stage uptime :=
    ⟨detector.led_onInterval stage uptime _, rfl⟩

/-- Taking a job spares the LED. -/
theorem takeJob (environment : Environment) : SparesLed environment environment.takeJob.2 := by
  unfold Environment.takeJob
  cases received : environment.hub.receive with
  | none => exact ⟨rfl, rfl⟩
  | some taken =>
    obtain ⟨job, hub⟩ := taken
    refine ⟨rfl, ?_⟩
    unfold Hub.receive at received
    split at received
    · contradiction
    · cases received
      rfl

/-- The start spares the LED. -/
theorem start {σ : Type} (supervisor : Supervisor σ) :
    SparesLed supervisor.environment supervisor.start.environment := by
  have across := Thread.run_each covers.refl trans (covers.each_start supervisor.loop)
    supervisor.environment
  rw [Loop.run_start] at across
  exact across

/-- What a pass does after its job was run spares the LED. -/
theorem finish {σ : Type} (supervisor : Supervisor σ) :
    SparesLed supervisor.serveCommand.2.environment supervisor.pass.2.environment := by
  let served := supervisor.serveCommand.2
  have across := Thread.run_each covers.refl trans (covers.each_finish served.loop none)
    served.environment
  have delivery := served.loop.run_deliverEvents served.environment
  rw [Supervisor.supervisor_loop] at delivery
  simp only [Loop.finish, Thread.run_bind] at across
  rw [Supervisor.pass_eq, delivery, Loop.run_serveStages, Loop.run_serveRestart]
  exact across

end SparesLed

/-! ### What a pass tells the LED -/

/-- Whether the command is the core's if it has the name of the LED command. -/
def Command.IsGenuine (command : Command) : Prop :=
  command.id = "onboard_led" → command.handler = Core.onboardLed

namespace Supervisor

variable {σ : Type}

/-- What the next pass tells the LED. If it runs the LED command, that is the action that the
argument denotes, or nothing if it denotes none; if it runs another one, what its handler tells. -/
def orders (supervisor : Supervisor σ) : List LedAction :=
  match supervisor.nextJob with
  | none => []
  | some job =>
    if job.command.id = "onboard_led" then (job.args.bind LedAction.ofArgument?).toList
    else
      (job.command.handler job.args).orders job.command.owner supervisor.environment.takeJob.2

/-- What the handler of the next job tells the LED are the orders of the pass. -/
theorem orders_of_cons {supervisor : Supervisor σ} {job : Job} {rest : List Job}
    (knows : Knows Command.IsGenuine supervisor.environment)
    (waiting : supervisor.environment.hub.queue = job :: rest) :
    supervisor.orders = (job.command.handler job.args).orders job.command.owner
      supervisor.environment.takeJob.2 := by
  have next : supervisor.nextJob = some job := by rw [nextJob, waiting, List.head?_cons]
  rw [orders, next]
  dsimp only
  split
  · rename_i named
    have genuine := knows.waiting job (by simp [waiting]) named
    rw [genuine, Core.orders_onboardLed]
  · rfl

/-- A pass changes the LED by its orders, and not otherwise. -/
theorem led_pass {supervisor : Supervisor σ}
    (knows : Knows Command.IsGenuine supervisor.environment) :
    supervisor.pass.2.environment.board.led =
      supervisor.orders.foldl (fun led action => (led.perform action).value)
        supervisor.environment.board.led := by
  rw [(SparesLed.finish supervisor).led]
  cases waiting : supervisor.environment.hub.queue with
  | nil =>
    rw [serveCommand_of_nil waiting, orders, nextJob, waiting]
    rfl
  | cons job rest =>
    rw [serveCommand_of_cons waiting, orders_of_cons knows waiting,
      ← (SparesLed.takeJob supervisor.environment).led]
    exact Program.led_run _ _ _

/-- A pass leaves the telemetry entries alone. -/
theorem telemetry_pass (supervisor : Supervisor σ) :
    supervisor.pass.2.environment.hub.telemetry = supervisor.environment.hub.telemetry := by
  rw [(SparesLed.finish supervisor).telemetry]
  cases waiting : supervisor.environment.hub.queue with
  | nil => rw [serveCommand_of_nil waiting]
  | cons job rest =>
    rw [serveCommand_of_cons waiting, ← (SparesLed.takeJob supervisor.environment).telemetry]
    refine Program.run_keeps (·.hub.telemetry) (Program.only_any _) ?_ _
    intro verb before after _ operation
    cases operation with
    | submit _ id args => exact (before.hub.tables_submit id args).2
    | _ => rfl

/-- The orders of passes, one for each turn, with whether the pin failed in the pass. -/
def ordersOf (supervisor : Supervisor σ) : List Turn → List Led.Order
  | [] => []
  | turn :: rest =>
    let met := supervisor.meet turn
    met.orders.map (⟨·, met.environment.board.led.pin.failing⟩) ++ met.pass.2.ordersOf rest

end Supervisor

/-- The orders of a boot. -/
def Boot.orders {σ : Type} (boot : Boot σ) (store : Store) : List Led.Order :=
  (boot.started store).ordersOf boot.turns

/-! ### The telemetry entry of the LED -/

/-- The core telemetry entry of the LED. -/
def Core.ledEntry : Telemetry where
  id := "onboard_led"
  append vitals id document := document.set id (.bool vitals.ledOn)

/-- If no other entry touches the key, a telemetry document says under it whether the LED is on. -/
theorem TelemetryTable.get?_appendAll {table : TelemetryTable}
    (found : Registry.find? table "onboard_led" = some Core.ledEntry)
    (spares : ∀ entry ∈ table.entries, entry.id ≠ "onboard_led" → ∀ vitals document,
      (entry.run vitals document).get? "onboard_led" = document.get? "onboard_led")
    (vitals : Vitals) (document : Document) :
    (table.appendAll vitals document).get? "onboard_led" = some (.bool vitals.ledOn) := by
  have only : ∀ entry ∈ table.entries, entry.id = "onboard_led" → entry = Core.ledEntry :=
    fun entry member named => Registry.eq_of_find? found member named
  have set (document : Document) :
      (Core.ledEntry.run vitals document).get? "onboard_led" = some (.bool vitals.ledOn) :=
    (document.get?_set _ _ _).trans (if_pos rfl)
  have listed := Registry.mem_of_find? found
  unfold appendAll
  generalize table.entries = entries at spares only listed
  -- The entry is still to come, or what it set is still there.
  have all (document : Document) (due : Core.ledEntry ∈ entries ∨
      document.get? "onboard_led" = some (.bool vitals.ledOn)) :
      (entries.foldl (fun document entry => entry.run vitals document) document).get?
        "onboard_led" = some (.bool vitals.ledOn) := by
    clear listed
    induction entries generalizing document with
    | nil => exact due.resolve_left List.not_mem_nil
    | cons entry rest ih =>
      refine ih (fun other later => spares other (List.mem_cons_of_mem _ later))
        (fun other later => only other (List.mem_cons_of_mem _ later)) _ ?_
      by_cases named : entry.id = "onboard_led"
      · rw [only entry List.mem_cons_self named]
        exact .inr (set document)
      · rw [spares entry List.mem_cons_self named]
        refine due.imp (fun member => ?_) id
        rcases List.mem_cons.mp member with rfl | later
        · exact absurd rfl named
        · exact later
  exact all document (.inl listed)

/-! ### A boot -/

variable {σ : Type}

/-- What is kept of the LED from one call of the owner to the next. -/
structure Supervisor.KeepsLed (pin : Pin) (activeLow : Bool) (table : TelemetryTable)
    (orders : List Led.Order) (supervisor : Supervisor σ) : Prop where
  knows : Knows Command.IsGenuine supervisor.environment
  told : Led.Told pin activeLow orders supervisor.environment.board.led
  telemetry : supervisor.environment.hub.telemetry = some table

namespace Supervisor.KeepsLed

variable {pin : Pin} {activeLow : Bool} {table : TelemetryTable} {orders : List Led.Order}
  {supervisor : Supervisor σ}

/-- A turn gives no orders. -/
theorem meet (keeps : KeepsLed pin activeLow table orders supervisor) (turn : Turn) :
    KeepsLed pin activeLow table orders (supervisor.meet turn) where
  knows := keeps.knows.meet turn
  told := by
    refine Environment.meet_holds
      (fun environment => Led.Told pin activeLow orders environment.board.led)
      (fun environment occurrence told => ?_) turn keeps.told
    obtain ⟨failing, same⟩ := (environment.led_undergo occurrence).2
    rw [same]
    exact told.failing failing
  telemetry := by
    refine Eq.trans ?_ keeps.telemetry
    exact Environment.meet_keeps (·.hub.telemetry)
      (fun environment occurrence => (environment.led_undergo occurrence).1) turn _

/-- Neither does the start. -/
theorem start (keeps : KeepsLed pin activeLow table orders supervisor) :
    KeepsLed pin activeLow table orders supervisor.start where
  knows := keeps.knows.start
  told := (SparesLed.start supervisor).led ▸ keeps.told
  telemetry := (SparesLed.start supervisor).telemetry.trans keeps.telemetry

/-- A pass gives its orders. -/
theorem pass (keeps : KeepsLed pin activeLow table orders supervisor) :
    KeepsLed pin activeLow table
      (orders ++ supervisor.orders.map (⟨·, supervisor.environment.board.led.pin.failing⟩))
      supervisor.pass.2 where
  knows := keeps.knows.pass
  told := by
    rw [led_pass keeps.knows]
    exact keeps.told.performs supervisor.orders
  telemetry := supervisor.telemetry_pass.trans keeps.telemetry

/-- So do passes in turn. -/
theorem passes (keeps : KeepsLed pin activeLow table orders supervisor) (turns : List Turn) :
    KeepsLed pin activeLow table (orders ++ supervisor.ordersOf turns)
      (supervisor.passes turns).2 := by
  induction turns generalizing supervisor orders with
  | nil =>
    rw [ordersOf, List.append_nil]
    exact keeps
  | cons turn rest ih =>
    have later := ih (keeps.meet turn).pass
    rw [List.append_assoc] at later
    exact later

end Supervisor.KeepsLed

/-- When the platform is to start, a LED that was just made was given no orders. -/
theorem Boot.keepsLed_opened (boot : Boot σ) (store : Store) {pin : Pin} {activeLow : Bool}
    (made : boot.led = (Led.onPin pin activeLow).value) :
    (boot.opened store).KeepsLed pin activeLow (boot.builder store).telemetry [] := by
  obtain ⟨reached, _, lines, said⟩ := boot.builder_reached store
  have registered : Builder.Registered boot.adapters (boot.builder store) :=
    Builder.registers boot.config (boot.board store) boot.adapters
  suffices built : (boot.builder store).build.KeepsLed pin activeLow
      (boot.builder store).telemetry [] from built.meet boot.opening
  refine ⟨Knows.build reached fun command member named => ?_, ?_, rfl⟩
  · -- The name leads to the core command, so no other command has it.
    obtain ⟨core, listed, same, found, _⟩ := registered.core "onboard_led" (by simp)
    rw [Registry.eq_of_find? found member named]
    simp only [Core.commands, List.mem_cons, List.not_mem_nil, or_false] at listed
    rcases listed with rfl | rfl | rfl | rfl | rfl <;> simp_all
  · have led : (boot.builder store).build.environment.board.led = boot.led := by
      change (boot.builder store).environment.board.led = boot.led
      rw [said]
      rfl
    rw [led, made]
    exact .onPin pin activeLow

/-- What the orders come to that a LED was given since it was made on a pin. -/
structure Supervisor.LedFollows (pin : Pin) (activeLow : Bool) (orders : List Led.Order)
    (supervisor : Supervisor σ) : Prop where
  /-- The LED is on if the orders, one after the other from off, leave it on. -/
  isOn : supervisor.environment.board.led.isOn = Led.lit orders
  /-- The telemetry entry of the LED says so. -/
  entry : ∀ document, supervisor.environment.hub.appendTelemetryOf supervisor.environment.vitals
    "onboard_led" document = (true, document.set "onboard_led" (.bool (Led.lit orders)))
  /-- So does the telemetry document, if no other entry touches the key. -/
  document : (∀ table ∈ supervisor.environment.hub.telemetry, ∀ entry ∈ table.entries,
      entry.id ≠ "onboard_led" → ∀ vitals document,
        (entry.run vitals document).get? "onboard_led" = document.get? "onboard_led") →
    supervisor.telemetry.get? "onboard_led" = some (.bool (Led.lit orders))
  /-- The pin was written when the LED was made, and once for each order. -/
  writes : supervisor.environment.board.led.pin.writes = pin.writes + 1 + orders.length
  /-- A further pass that runs the LED command writes once if the argument is accepted, and not at
  all if it is refused. -/
  command : ∀ turn, ∀ job ∈ (supervisor.meet turn).nextJob, job.command.id = "onboard_led" →
    (supervisor.meet turn).pass.2.environment.board.led.pin.writes =
      supervisor.environment.board.led.pin.writes +
        if (job.args.bind LedAction.ofArgument?).isSome then 1 else 0
  /-- The level is what the last write that was taken asked for, or else the initial one. -/
  level : supervisor.environment.board.led.pin.high =
    Led.level pin activeLow (Led.writes pin orders)
  /-- If the last write was taken, the level is that of a LED that is on, or of one that is off, as
  the LED remembers it. -/
  agrees : ∀ write ∈ (Led.writes pin orders).getLast?, write.taken = true →
    supervisor.environment.board.led.pin.high =
      (supervisor.environment.board.led.isOn != activeLow)

/-- A LED follows the orders that it was given. -/
theorem Supervisor.KeepsLed.follows {pin : Pin} {activeLow : Bool} {table : TelemetryTable}
    {orders : List Led.Order} {supervisor : Supervisor σ}
    (found : Registry.find? table "onboard_led" = some Core.ledEntry)
    (keeps : supervisor.KeepsLed pin activeLow table orders) :
    supervisor.LedFollows pin activeLow orders where
  isOn := keeps.told.isOn
  entry document := by
    rw [Hub.appendTelemetryOf, keeps.telemetry]
    dsimp only
    rw [TelemetryTable.appendOne, found, ← keeps.told.isOn]
    rfl
  document spares := by
    rw [Supervisor.telemetry, Hub.appendTelemetry, keeps.telemetry]
    dsimp only
    rw [TelemetryTable.get?_appendAll found (spares table keeps.telemetry), ← keeps.told.isOn]
    rfl
  writes := by
    rw [keeps.told.count, Led.length_writes]
    omega
  command turn job next named := by
    have met := keeps.meet turn
    have told : (supervisor.meet turn).orders = (job.args.bind LedAction.ofArgument?).toList := by
      rw [Supervisor.orders, Option.mem_def.mp next]
      exact if_pos named
    have passed := met.pass.told.count
    rw [told] at passed
    rw [passed, keeps.told.count]
    cases job.args.bind LedAction.ofArgument? <;> simp [Nat.add_assoc]
  level := keeps.told.high
  agrees := keeps.told.agrees

/-- The LED follows from the orders of a boot alone, whatever else happens in it: from those of the
LED command, whose arguments are accepted or refused, and those of other commands, if there are
any. -/
theorem Boot.led_follows (boot : Boot σ) (store : Store) (pin : Pin) (activeLow : Bool) :
    let boot := { boot with led := (Led.onPin pin activeLow).value }
    (boot.final store).LedFollows pin activeLow (boot.orders store) := by
  intro boot
  have registered : (boot.builder store).Holds (Builder.held ([] ++ boot.adapters)) :=
    (Builder.holds_onBoard boot.config (boot.board store)).registerEach boot.adapters
  have distinct : (Core.telemetry.map Registrable.id).Nodup := by
    show ["uptime", "onboard_led"].Nodup
    decide
  have listed : Core.ledEntry ∈ Core.telemetry := by simp [Core.telemetry, Core.ledEntry]
  have found := registered.telemetry.find?_id distinct (by decide) listed
  exact ((boot.keepsLed_opened store rfl).start.passes boot.turns).follows found

end Overseer
