import WideColumn.Proofs.Command.Run

/-!
# Recorded runs

A run can be watched: the sink is wrapped in one that keeps every file it is handed together with
its answer, and the host works beside the record without touching it. `generate_recorded` says that
being watched changes neither the report nor the state.
-/

namespace WideColumn

/-- The host, with its requests carried over to another monad. -/
def Host.map {m n : Type → Type} (f : {α : Type} → m α → n α) (host : Host m) : Host n :=
  { status := fun path => f (host.status path)
    resolve := fun path => f (host.resolve path)
    entries := fun path => f (host.entries path)
    readFile := fun path => f (host.readFile path)
    writeFile := fun path content => f (host.writeFile path content)
    removeFile := fun path => f (host.removeFile path)
    removeDirectory := fun path => f (host.removeDirectory path)
    searchPath := f host.searchPath
    setMode := fun path mode => f (host.setMode path mode)
    print := fun text => f (host.print text)
    tell := fun text => f (host.tell text)
    isPresent := fun path => f (host.isPresent path)
    createDirectories := fun path => f (host.createDirectories path)
    confirm := fun question => f (host.confirm question)
    note := fun note => f (host.note note)
    log := fun record => f (host.log record)
    start := fun program arguments => f (host.start program arguments) }

/-- A file that a sink was handed, and what it answered. -/
structure Call where
  file : GeneratedFile
  answer : Except SinkError Outcome

namespace Call

/-- The path that was written. -/
def written? (call : Call) : Option String :=
  match call.answer with
  | .ok (.written path) => some path
  | _ => none

/-- The path that was kept. -/
def skipped? (call : Call) : Option String :=
  match call.answer with
  | .ok (.skipped path) => some path
  | _ => none

/-- The file was printed. -/
def isPrinted (call : Call) : Bool :=
  match call.answer with
  | .ok .printed => true
  | _ => false

/-- Why the file was not taken. -/
def refusal? (call : Call) : Option SinkError :=
  match call.answer with
  | .error cause => some cause
  | .ok _ => none

end Call

variable {σ α β : Type}

/-- A request that is made beside a record of calls. -/
def beside (x : StateM σ α) : StateM (σ × List Call) α := fun (s, calls) =>
  ((x s).1, (x s).2, calls)

/-- The sink, with a record of its calls. -/
def Sink.recorded (sink : Sink (StateM σ)) : Sink (StateM (σ × List Call)) where
  emit file := fun (s, calls) =>
    let (answer, s') := sink.emit file s
    (answer, s', calls ++ [⟨file, answer⟩])

/-! ## Forgetting the record -/

/-- A watched request gives the answer and the state of a request that is not watched. -/
def Erases (x : StateM (σ × List Call) α) (y : StateM σ α) : Prop :=
  ∀ s calls, (x (s, calls)).1 = (y s).1 ∧ (x (s, calls)).2.1 = (y s).2

namespace Erases

theorem pure (a : α) : Erases (σ := σ) (Pure.pure a) (Pure.pure a) := fun _ _ => ⟨rfl, rfl⟩

theorem beside (x : StateM σ α) : Erases (WideColumn.beside x) x := fun _ _ => ⟨rfl, rfl⟩

theorem recorded (sink : Sink (StateM σ)) (file : GeneratedFile) :
    Erases (sink.recorded.emit file) (sink.emit file) := fun _ _ => ⟨rfl, rfl⟩

theorem bind {x : StateM (σ × List Call) α} {y : StateM σ α}
    {f : α → StateM (σ × List Call) β} {g : α → StateM σ β} (h : Erases x y)
    (hf : ∀ a, Erases (f a) (g a)) : Erases (x >>= f) (y >>= g) := by
  intro s calls
  obtain ⟨answer, state⟩ := h s calls
  rw [bind_apply, bind_apply, ← answer, ← state]
  exact hf (x (s, calls)).1 _ _

theorem forM {f : α → StateM (σ × List Call) PUnit} {g : α → StateM σ PUnit}
    (hf : ∀ a, Erases (f a) (g a)) : ∀ l : List α, Erases (l.forM f) (l.forM g)
  | [] => pure _
  | a :: l => (hf a).bind fun _ => forM hf l

end Erases

namespace Command

variable (host : Host (StateM σ)) (sink : Sink (StateM σ))

theorem warn_recorded (tables : List Table) :
    Erases (warn (host.map beside) tables) (warn host tables) := by
  refine .forM (fun table => ?_) tables
  exact .forM (fun diagnostic => .beside _) table.diagnostics

theorem loadTables_recorded (fixture : Fixture) (keyspace : String) (requested : List String) :
    Erases (loadTables (host.map beside) fixture keyspace requested)
      (loadTables host fixture keyspace requested) := by
  unfold loadTables
  cases fixture.tables keyspace requested with
  | error e => exact .pure _
  | ok tables =>
    exact (warn_recorded host tables).bind fun _ => (Erases.beside _).bind fun _ => .pure _

theorem noteOutcome_recorded (outcome : Outcome) :
    Erases (noteOutcome (host.map beside) outcome) (noteOutcome host outcome) := by
  cases outcome with
  | printed => exact .pure _
  | written path => exact .beside _
  | skipped path => exact .beside _

theorem generateFrom_recorded (tables : List Table) :
    ∀ (claims : Claims) (report : Report),
      Erases (generateFrom (host.map beside) sink.recorded claims report tables)
        (generateFrom host sink claims report tables) := by
  induction tables with
  | nil => exact fun _ _ => .pure _
  | cons table rest ih =>
    intro claims report
    unfold generateFrom
    refine (Erases.beside _).bind fun _ => ?_
    dsimp only
    split
    · exact (Erases.beside _).bind fun _ => ih _ _
    · refine (Erases.recorded sink _).bind fun answer => ?_
      cases answer with
      | ok outcome => exact (noteOutcome_recorded host outcome).bind fun _ => ih _ _
      | error cause => exact (Erases.beside _).bind fun _ => ih _ _

theorem generate_recorded (fixture : Fixture) (keyspace : String) (requested : List String) :
    Erases (generate (host.map beside) sink.recorded fixture keyspace requested)
      (generate host sink fixture keyspace requested) := by
  refine (loadTables_recorded host fixture keyspace requested).bind fun loaded => ?_
  cases loaded with
  | error e => exact .pure _
  | ok tables => exact (generateFrom_recorded host sink tables [] {}).bind fun _ => .pure _

end Command

end WideColumn
