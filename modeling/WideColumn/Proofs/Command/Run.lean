import WideColumn.Command.Generate

/-!
# Runs over tables

What one table can do to a run, said once: it fails because an earlier table has its path, or its
file is handed to the sink, which takes it or refuses it. `Preserved` asks of an invariant that all
of this keeps it, and `Preserved.generateModels` concludes that it holds after the last table. The
tables that have their path first are `Tables.firsts`.
-/

namespace WideColumn

/-- The file that the model of a table goes to. -/
def Table.file (table : Table) : GeneratedFile := (Model.ofTable table).toFile

theorem Table.file_path (table : Table) : table.file.path = Name.modelFile table.name := by
  simp only [file, Model.ofTable, Model.render, Model.toFile]

theorem Table.file_content (table : Table) :
    table.file.content = (Model.ofTable table).content := by
  simp only [file, Model.toFile]

/-! ## Tables and those before them -/

/-- The first of some tables that has the path of a table. -/
def Table.rival? (earlier : List Table) (table : Table) : Option Table :=
  earlier.find? (·.file.path = table.file.path)

theorem Table.rival?_eq_none {earlier : List Table} {table : Table} :
    table.rival? earlier = none ↔ ∀ other ∈ earlier, other.file.path ≠ table.file.path := by
  simp [rival?]

namespace Tables

/-- Each table, with the tables before it. -/
def withEarlier (tables : List Table) : List (List Table × Table) :=
  tables.zipIdx.map fun (table, i) => (tables.take i, table)

theorem withEarlier_concat (tables : List Table) (table : Table) :
    withEarlier (tables ++ [table]) = withEarlier tables ++ [(tables, table)] := by
  have before : ∀ entry ∈ tables.zipIdx,
      ((tables ++ [table]).take entry.2, entry.1) = (tables.take entry.2, entry.1) := by
    intro entry h
    have := List.snd_lt_of_mem_zipIdx h
    rw [List.take_append_of_le_length (by omega)]
  unfold withEarlier
  rw [List.zipIdx_append, List.map_append]
  congr 1
  · exact List.map_congr_left before
  · simp

theorem exists_of_mem_withEarlier {tables earlier : List Table} {table : Table}
    (h : (earlier, table) ∈ withEarlier tables) : ∃ later, tables = earlier ++ table :: later := by
  unfold withEarlier at h
  obtain ⟨⟨t, i⟩, hm, he⟩ := List.mem_map.1 h
  obtain ⟨rfl, rfl⟩ := Prod.mk.inj he
  obtain ⟨hi, rfl⟩ := List.getElem?_eq_some_iff.mp (List.mk_mem_zipIdx_iff_getElem?.mp hm)
  refine ⟨tables.drop (i + 1), ?_⟩
  rw [← List.drop_eq_getElem_cons hi, List.take_append_drop]

theorem mem_of_mem_withEarlier {tables earlier : List Table} {table : Table}
    (h : (earlier, table) ∈ withEarlier tables) : table ∈ tables := by
  obtain ⟨later, rfl⟩ := exists_of_mem_withEarlier h
  exact List.mem_append_right _ List.mem_cons_self

/-- The tables whose path no table before them has. -/
def firsts (tables : List Table) : List Table :=
  (withEarlier tables).filterMap fun (earlier, table) =>
    if (table.rival? earlier).isNone then some table else none

theorem firsts_concat_free {tables : List Table} {table : Table}
    (free : table.rival? tables = none) :
    firsts (tables ++ [table]) = firsts tables ++ [table] := by
  simp [firsts, withEarlier_concat, free]

theorem firsts_concat_claimed {tables : List Table} {table first : Table}
    (rival : table.rival? tables = some first) : firsts (tables ++ [table]) = firsts tables := by
  simp [firsts, withEarlier_concat, rival]

theorem firsts_concat (tables : List Table) (table : Table) :
    firsts tables <+: firsts (tables ++ [table]) := by
  cases rival : table.rival? tables with
  | none => simp [firsts_concat_free rival]
  | some first => simp [firsts_concat_claimed rival]

theorem firsts_prefix (tables more : List Table) : firsts tables <+: firsts (tables ++ more) := by
  induction more generalizing tables with
  | nil => simp
  | cons table more ih =>
    rw [show tables ++ table :: more = tables ++ [table] ++ more by simp]
    exact (firsts_concat tables table).trans (ih _)

/-- A table that has its path first has fewer such tables before it than there are. -/
theorem length_firsts_lt {tables earlier : List Table} {table : Table}
    (h : (earlier, table) ∈ withEarlier tables) (free : table.rival? earlier = none) :
    (firsts earlier).length < (firsts tables).length := by
  obtain ⟨later, rfl⟩ := exists_of_mem_withEarlier h
  have upTo := firsts_prefix (earlier ++ [table]) later
  rw [firsts_concat_free free, ← List.append_cons] at upTo
  have shorter := upTo.length_le
  rwa [List.length_append] at shorter

theorem mem_of_mem_firsts {tables : List Table} {table : Table} (h : table ∈ firsts tables) :
    table ∈ tables := by
  obtain ⟨⟨earlier, t⟩, hm, he⟩ := List.mem_filterMap.1 h
  have he : t.rival? earlier = none ∧ t = table := by simpa using he
  exact he.2 ▸ mem_of_mem_withEarlier hm

/-- One more element keeps the images distinct if its own is new. -/
theorem nodup_map_concat {α β : Type} {f : α → β} {l : List α} {a : α} (h : (l.map f).Nodup)
    (new : f a ∉ l.map f) : ((l ++ [a]).map f).Nodup := by
  rw [List.map_append, List.nodup_append]
  refine ⟨h, by simp, fun b hb c hc e => new ?_⟩
  rw [← List.mem_singleton.1 hc, ← e]
  exact hb

end Tables

/-! ## Requests one after the other -/

/-- In two requests one after the other, the second begins where the first ends. -/
theorem bind_apply {σ α β : Type} (x : StateM σ α) (f : α → StateM σ β) (s : σ) :
    (x >>= f) s = f (x s).1 (x s).2 := rfl

namespace Command

variable {σ : Type} {host : Host (StateM σ)} {sink : Sink (StateM σ)}

/-! ## One table -/

/-- The state after the keys of a table are logged. -/
def keysLogged (host : Host (StateM σ)) (table : Table) (s : σ) : σ :=
  (logKeys host table.name (KeyModel.ofTable table) s).2

theorem generateFrom_cons (claims : Claims) (report : Report) (table : Table) (rest : List Table)
    (s : σ) :
    generateFrom host sink claims report (table :: rest) s =
      match claims.lookup table.file.path with
      | some first =>
        let e := EmitError.duplicatePath table.file.path first
        generateFrom host sink claims (report.fail table.name e) rest
          (logFailure host table.name e (keysLogged host table s)).2
      | none =>
        let claims := (table.file.path, table.name) :: claims
        match sink.emit table.file (keysLogged host table s) with
        | (.ok outcome, s') =>
          generateFrom host sink claims (report.add outcome) rest
            (noteOutcome host outcome s').2
        | (.error cause, s') =>
          generateFrom host sink claims (report.fail table.name (.sink cause)) rest
            (logFailure host table.name (.sink cause) s').2 := by
  conv => lhs; unfold generateFrom
  dsimp only
  rw [show (Model.render table (KeyModel.ofTable table)).toFile = table.file from rfl, bind_apply]
  cases claims.lookup table.file.path with
  | some first => rfl
  | none =>
    dsimp only
    rw [bind_apply, show (logKeys host table.name (KeyModel.ofTable table) s).2 =
      keysLogged host table s from rfl]
    rcases sink.emit table.file (keysLogged host table s) with ⟨_ | _, s'⟩ <;> rfl

/-! ## The claims -/

/-- The claims say of every path which of some tables has it first. -/
def Claims.Record (claims : Claims) (done : List Table) : Prop :=
  ∀ path, claims.lookup path = (done.find? (·.file.path = path)).map (·.name)

theorem Claims.Record.nil : Claims.Record [] [] := fun _ => rfl

/-- A table whose path is claimed already changes no claim. -/
theorem Claims.Record.keep {claims : Claims} {done : List Table} {table first : Table}
    (h : claims.Record done) (rival : table.rival? done = some first) :
    claims.Record (done ++ [table]) := by
  intro path
  rw [h path, List.find?_append]
  by_cases hp : table.file.path = path
  · subst hp
    rw [Table.rival?] at rival
    simp [rival]
  · simp [hp]

/-- A table whose path is not claimed claims it. -/
theorem Claims.Record.add {claims : Claims} {done : List Table} {table : Table}
    (h : claims.Record done) (free : table.rival? done = none) :
    Claims.Record ((table.file.path, table.name) :: claims) (done ++ [table]) := by
  intro path
  rw [List.lookup_cons, List.find?_append]
  by_cases hp : path = table.file.path
  · subst hp
    rw [Table.rival?] at free
    simp [free]
  · have hp' : ¬ table.file.path = path := fun e => hp e.symm
    rw [beq_eq_false_iff_ne.2 hp, h path]
    simp [hp']

/-! ## All tables -/

/-- Everything that is done for one table keeps what holds of the tables before it, the report so
far and the state. -/
structure Preserved (host : Host (StateM σ)) (sink : Sink (StateM σ))
    (I : List Table → Report → σ → Prop) : Prop where
  log : ∀ {done report s} (record : Log.Record), I done report s →
    I done report (host.log record s).2
  note : ∀ {done report s} (note : Note), I done report s → I done report (host.note note s).2
  duplicate : ∀ {done report s table first}, I done report s →
    Table.rival? done table = some first →
    I (done ++ [table])
      (report.fail table.name (.duplicatePath table.file.path first.name)) s
  taken : ∀ {done report s s' table outcome}, I done report s →
    Table.rival? done table = none → sink.emit table.file s = (.ok outcome, s') →
    I (done ++ [table]) (report.add outcome) s'
  refused : ∀ {done report s s' table cause}, I done report s →
    Table.rival? done table = none → sink.emit table.file s = (.error cause, s') →
    I (done ++ [table]) (report.fail table.name (.sink cause)) s'

namespace Preserved

variable {I : List Table → Report → σ → Prop}

theorem noteOutcome (p : Preserved host sink I) {done : List Table} {report : Report} {s : σ}
    (outcome : Outcome) (h : I done report s) :
    I done report (Command.noteOutcome host outcome s).2 := by
  cases outcome with
  | printed => exact h
  | written path => exact p.note _ h
  | skipped path => exact p.note _ h

theorem generateFrom (p : Preserved host sink I) (rest : List Table) :
    ∀ {claims : Claims} {done : List Table} {report : Report} {s : σ},
      claims.Record done → I done report s →
      I (done ++ rest) (Command.generateFrom host sink claims report rest s).1
        (Command.generateFrom host sink claims report rest s).2 := by
  -- The claims are carried along, for they decide what `generateFrom` does next.
  induction rest with
  | nil =>
    intro claims done report s _ h
    rw [List.append_nil]
    exact h
  | cons table rest ih =>
    intro claims done report s claimed h
    have logged : I done report (keysLogged host table s) := p.log _ h
    rw [show done ++ table :: rest = done ++ [table] ++ rest by simp]
    cases rival : table.rival? done with
    | some first =>
      have lookup : claims.lookup table.file.path = some first.name := by
        rw [claimed, ← Table.rival?, rival]
        rfl
      rw [generateFrom_cons, lookup]
      exact ih (claimed.keep rival) (p.log _ (p.duplicate logged rival))
    | none =>
      have lookup : claims.lookup table.file.path = none := by
        rw [claimed, ← Table.rival?, rival]
        rfl
      rw [generateFrom_cons, lookup]
      dsimp only
      split
      case _ outcome s' emitted =>
        exact ih (claimed.add rival) (p.noteOutcome outcome (p.taken logged rival emitted))
      case _ cause s' emitted =>
        exact ih (claimed.add rival) (p.log _ (p.refused logged rival emitted))

/-- What holds of no tables, an empty report and the first state holds at the end of the run. -/
theorem generateModels (p : Preserved host sink I) (tables : List Table) {s : σ}
    (h : I [] {} s) :
    I tables (Command.generateModels host sink tables s).1
      (Command.generateModels host sink tables s).2 := by
  have := p.generateFrom tables Claims.Record.nil h
  rwa [List.nil_append] at this

end Preserved

/-! ## Loading -/

theorem forM_preserves {α : Type} {P : σ → Prop} {f : α → StateM σ PUnit}
    (hf : ∀ a {s}, P s → P (f a s).2) : ∀ (l : List α) {s : σ}, P s → P (l.forM f s).2
  | [], _, h => h
  | a :: l, _, h => forM_preserves hf l (hf a h)

/-- Loading tables only logs. -/
theorem loadTables_preserves (host : Host (StateM σ)) {P : σ → Prop}
    (log : ∀ (record : Log.Record) {s}, P s → P (host.log record s).2) (fixture : Fixture)
    (keyspace : String) (requested : List String) {s : σ} (h : P s) :
    P (loadTables host fixture keyspace requested s).2 := by
  unfold loadTables
  cases fixture.tables keyspace requested with
  | error e => exact h
  | ok tables =>
    refine log _ (forM_preserves (fun table s h => ?_) tables h)
    exact forM_preserves (fun diagnostic s h => log _ h) table.diagnostics h

theorem generate_ok (host : Host (StateM σ)) (sink : Sink (StateM σ)) {fixture : Fixture}
    {keyspace : String} {requested : List String} {tables : List Table}
    (h : fixture.tables keyspace requested = .ok tables) (s : σ) :
    ∃ s₀, loadTables host fixture keyspace requested s = (.ok tables, s₀) ∧
      generate host sink fixture keyspace requested s =
        (.ok (Command.generateModels host sink tables s₀).1,
          (Command.generateModels host sink tables s₀).2) := by
  have loaded : ∃ s₀, loadTables host fixture keyspace requested s = (.ok tables, s₀) := by
    unfold loadTables
    rw [h]
    exact ⟨_, rfl⟩
  obtain ⟨s₀, loaded⟩ := loaded
  refine ⟨s₀, loaded, ?_⟩
  unfold generate
  rw [bind_apply, loaded]
  rfl

end Command

end WideColumn
