/-
  Migrations (`migrate.ts` of `@ax10m/persistence`).

  A process creates the tables of the migrations that are not recorded, and records each when its
  statements have run.  Any number of processes may do so at once, and one may stop anywhere: a
  statement may fail, or be done without its process learning of it.

  * `applyMigrations_run`: whatever happens, the recorded migrations are the first ones, each once
    and with all its relations, and a process that returns leaves all of them recorded;
  * `applyMigrations_resumes`: a process that is alone after that runs what is missing, in order,
    and the next one nothing.
-/
import AX10M.Effects.Rely
import Mathlib.Data.List.Infix
import Mathlib.Data.List.Nodup
import Mathlib.Data.List.Perm.Subperm

namespace AX10M

open Effects

/-! ## The statements -/

structure Column where
  name : String
  type : String
  /-- what follows the type -/
  constraint : String := ""
  deriving DecidableEq

/-- A table or an index; both are in one name space. -/
inductive Relation where
  | table (name : String) (columns : List Column)
  | index (name of : String) (columns : List String)
  deriving DecidableEq

def Relation.name : Relation → String
  | table name _ | index name _ _ => name

/-- A migration: its statements create relations that do not exist (`IF NOT EXISTS`). -/
structure Migration where
  name : String
  statements : List Relation

/-- A column that is a text and not null. -/
def textColumn (name : String) : Column := ⟨name, "text", "NOT NULL"⟩

/-- A text that is the primary key. -/
def textKey (name : String) : Column := ⟨name, "text", "PRIMARY KEY"⟩

/-- A document. -/
def jsonColumn (name : String) : Column := ⟨name, "jsonb", "NOT NULL"⟩

/-- `MIGRATIONS`. -/
def allMigrations : List Migration := [
  { name := "0001_init"
    statements := [
      .table "merchants" [textKey "id", textColumn "display_name", textColumn "created_at"],
      .table "merchant_connections" [textKey "connection_id", textColumn "merchant_id",
        textColumn "processor", textColumn "credentials_encrypted",
        ⟨"is_default", "boolean", "NOT NULL DEFAULT false"⟩, textColumn "created_at"],
      .index "idx_conn_processor_default" "merchant_connections" ["processor", "is_default"],
      .table "ledger_entries" [⟨"seq", "integer", "PRIMARY KEY"⟩, textColumn "merchant_id",
        textColumn "type", textColumn "occurred_at", jsonColumn "detail", textColumn "prev_hash",
        textColumn "hash"],
      .index "idx_ledger_merchant" "ledger_entries" ["merchant_id"]] },
  { name := "0002_recovery_models"
    statements := [
      .table "recovery_models" [⟨"version", "integer", "PRIMARY KEY"⟩, jsonColumn "weights",
        textColumn "created_at", ⟨"active", "boolean", "NOT NULL DEFAULT false"⟩],
      .index "idx_recovery_models_active" "recovery_models" ["active"]] },
  { name := "0003_credential_attempts"
    statements := [
      .table "credential_attempts" [textKey "key", ⟨"count", "integer", "NOT NULL DEFAULT 0"⟩,
        textColumn "last_at"]] },
  { name := "0004_dunning_sends"
    statements := [.table "dunning_sends" [textKey "key", textColumn "sent_at"]] },
  { name := "0005_billing"
    statements := [
      .table "billing_accounts" [textKey "account_id", textColumn "merchant_id",
        textColumn "status", jsonColumn "doc", textColumn "created_at"],
      .index "idx_billing_accounts_merchant" "billing_accounts" ["merchant_id"],
      .table "billing_acceptances" [textKey "record_hash", textColumn "account_id",
        textColumn "merchant_id", jsonColumn "doc", textColumn "accepted_at"],
      .index "idx_billing_acceptances_account" "billing_acceptances" ["account_id"],
      .table "billing_invoices" [textKey "invoice_number", textColumn "account_id",
        textColumn "merchant_id", textColumn "period", textColumn "status", jsonColumn "doc",
        textColumn "issued_at"],
      .index "idx_billing_invoices_merchant" "billing_invoices" ["merchant_id"]] },
  { name := "0006_bandit_state"
    statements := [
      .table "bandit_state" [textKey "name", jsonColumn "doc",
        ⟨"updates", "integer", "NOT NULL DEFAULT 0"⟩, textColumn "updated_at"]] }]

/-! ## The database -/

/-- The relations of a database, and the names in `schema_migrations` if that table exists. -/
structure Database where
  applied : Option (List String) := none
  relations : List Relation := []

inductive MigrationOp where
  | createSchemaMigrations
  | selectNames
  | execute (statement : Relation)
  | insertName (name : String)

abbrev MigrationSig : Sig where
  Op := MigrationOp
  Res
    | .selectNames => List String
    | _ => Unit

/-- The columns an index is on are those of a table that exists. -/
def Relation.ready (relations : List Relation) : Relation → Bool
  | table _ _ => true
  | index _ of columns => relations.any fun r => match r with
    | .table name cs => decide (name = of ∧ ∀ c ∈ columns, c ∈ cs.map Column.name)
    | .index _ _ _ => false

/-- Create a relation if its name is free. -/
def Database.create (db : Database) (r : Relation) : Option Unit × Database :=
  if !r.ready db.relations then (none, db)
  else if r.name ∈ db.relations.map Relation.name then (some (), db)
  else (some (), { db with relations := db.relations ++ [r] })

/-- Insert a name, the primary key. -/
def Database.record (db : Database) (name : String) : Option Unit × Database :=
  match db.applied with
  | none => (none, db)
  | some names =>
    if name ∈ names then (none, db) else (some (), { db with applied := some (names ++ [name]) })

/-- A statement that reaches the database. -/
def Database.exec : Handler MigrationSig Database
  | .createSchemaMigrations, db => (some (), { db with applied := some (db.applied.getD []) })
  | .selectNames, db => (db.applied, db)
  | .execute r, db => db.create r
  | .insertName name, db => db.record name

/-- What becomes of a statement. -/
inductive Fate where
  | done
  /-- it does not reach the database, or fails there -/
  | refused
  /-- it is done, but its process does not learn of it -/
  | lost

/-- The database, and the connection to it. -/
def Database.handle : Fate → Handler MigrationSig Database
  | .done, o, db => db.exec o
  | .refused, _, db => (none, db)
  | .lost, o, db => (none, (db.exec o).2)

/-! ## A process -/

def executeAll : List Relation → Prog MigrationSig Unit
  | [] => .pure ()
  | r :: rest => .op (.execute r) fun _ => executeAll rest

def applyEach (applied : List String) : List Migration → List String → Prog MigrationSig (List String)
  | [], ran => .pure ran
  | m :: rest, ran =>
    if m.name ∈ applied then applyEach applied rest ran
    else do
      executeAll m.statements
      Prog.perform (S := MigrationSig) (.insertName m.name)
      applyEach applied rest (ran ++ [m.name])

/-- Apply all pending migrations; the names of those that were run. -/
def applyMigrations (migrations : List Migration) : Prog MigrationSig (List String) := do
  Prog.perform (S := MigrationSig) .createSchemaMigrations
  let applied ← Prog.perform (S := MigrationSig) .selectNames
  applyEach applied migrations []

/-! ## What holds between the statements -/

/-- The names that are recorded. -/
def Database.names (db : Database) : List String := db.applied.getD []

/-- All relations that the migrations create. -/
def relationsOf (ms : List Migration) : List Relation := ms.flatMap Migration.statements

/-- No name is used twice, and an index comes after its table. -/
structure WellFormed (ms : List Migration) : Prop where
  names : (ms.map Migration.name).Nodup
  relations : ((relationsOf ms).map Relation.name).Nodup
  ready : ∀ n < (relationsOf ms).length, ∀ r ∈ (relationsOf ms)[n]?,
    r.ready ((relationsOf ms).take n)

theorem allMigrations_wellFormed : WellFormed allMigrations where
  names := by decide
  relations := by decide
  ready := by decide

/-- The first migrations are recorded, with all their relations, and there are no other
    relations. -/
structure Migrated (ms : List Migration) (db : Database) : Prop where
  names : db.names <+: ms.map Migration.name
  present : ∀ m ∈ ms, m.name ∈ db.names → ∀ r ∈ m.statements, r ∈ db.relations
  made : ∀ r ∈ db.relations, r ∈ relationsOf ms
  distinct : (db.relations.map Relation.name).Nodup

/-- What a process relies on: nothing is taken back. -/
structure Grows (ms : List Migration) (db db' : Database) : Prop where
  migrated : Migrated ms db → Migrated ms db'
  names : db.names <+: db'.names
  relations : db.relations <+: db'.relations

theorem Grows.refl (ms : List Migration) (db : Database) : Grows ms db db :=
  ⟨id, List.prefix_refl _, List.prefix_refl _⟩

theorem Grows.trans {ms : List Migration} {db db' db'' : Database} (h : Grows ms db db')
    (h' : Grows ms db' db'') : Grows ms db db'' :=
  ⟨h'.migrated ∘ h.migrated, h.names.trans h'.names, h.relations.trans h'.relations⟩

/-- The statements of a process: relations of the migrations, and a name when all before it are
    recorded and its relations exist. -/
def Allowed (ms : List Migration) (db : Database) : MigrationOp → Prop
  | .createSchemaMigrations | .selectNames => True
  | .execute r => r ∈ relationsOf ms
  | .insertName name => ∃ pre m post, ms = pre ++ m :: post ∧ m.name = name ∧
      (∀ m' ∈ pre, m'.name ∈ db.names) ∧ ∀ r ∈ m.statements, r ∈ db.relations

variable {ms : List Migration} {db : Database}

theorem names_createSchemaMigrations (db : Database) :
    (db.exec .createSchemaMigrations).2.names = db.names := by
  simp [Database.exec, Database.names]

theorem create_cases (db : Database) (r : Relation) :
    db.create r = (none, db) ∧ ¬ r.ready db.relations ∨
      db.create r = (some (), db) ∧ r.name ∈ db.relations.map Relation.name ∨
      db.create r = (some (), { db with relations := db.relations ++ [r] }) ∧
        r.name ∉ db.relations.map Relation.name := by
  unfold Database.create
  by_cases hready : r.ready db.relations
  · by_cases hname : r.name ∈ db.relations.map Relation.name
    · simp [hready, hname]
    · simp [hready, hname]
  · simp [hready]

theorem record_cases (db : Database) (name : String) :
    db.record name = (none, db) ∨ name ∉ db.names ∧
      db.record name = (some (), { db with applied := some (db.names ++ [name]) }) := by
  unfold Database.record Database.names
  rcases db.applied with _ | names
  · exact Or.inl rfl
  · by_cases hmem : name ∈ names
    · simp [hmem]
    · simp [hmem]

theorem Migrated.create (h : Migrated ms db) {r : Relation} (hr : r ∈ relationsOf ms) :
    Migrated ms (db.create r).2 := by
  rcases create_cases db r with ⟨heq, -⟩ | ⟨heq, -⟩ | ⟨heq, hname⟩
  · rw [heq]
    exact h
  · rw [heq]
    exact h
  · rw [heq]
    refine ⟨h.names, fun m hm hrec r' hr' => ?_, fun r' hr' => ?_, ?_⟩
    · exact List.mem_append_left _ (h.present m hm hrec r' hr')
    · rcases List.mem_append.1 hr' with hold | hnew
      · exact h.made r' hold
      · rwa [List.mem_singleton.1 hnew]
    · rw [List.map_append, List.map_singleton]
      refine List.nodup_append.2 ⟨h.distinct, List.nodup_singleton _, fun n hn n' hn' heq => ?_⟩
      rw [heq, List.mem_singleton.1 hn'] at hn
      exact hname hn

/-- A name that is not recorded, after those before it: these are all that are. -/
theorem Migrated.names_eq (hms : WellFormed ms) (h : Migrated ms db) {pre post : List Migration}
    {m : Migration} (hsplit : ms = pre ++ m :: post) (hpre : ∀ m' ∈ pre, m'.name ∈ db.names)
    (hm : m.name ∉ db.names) : db.names = pre.map Migration.name := by
  have hnodup := hms.names
  rw [hsplit, List.map_append] at hnodup
  have hle : (pre.map Migration.name).length ≤ db.names.length := by
    refine (List.subperm_of_subset (List.nodup_append.1 hnodup).1 fun name hname => ?_).length_le
    obtain ⟨m', hm', rfl⟩ := List.mem_map.1 hname
    exact hpre m' hm'
  have hnames := h.names
  rw [hsplit, List.map_append, List.map_cons] at hnames
  obtain ⟨more, hmore⟩ := List.prefix_of_prefix_length_le (List.prefix_append _ _) hnames hle
  cases more with
  | nil => rw [← hmore, List.append_nil]
  | cons name more =>
    rw [← hmore, List.prefix_append_right_inj, List.cons_prefix_cons] at hnames
    refine absurd ?_ hm
    rw [← hmore, ← hnames.1]
    exact List.mem_append_right _ List.mem_cons_self

theorem Migrated.record (hms : WellFormed ms) (h : Migrated ms db) {pre post : List Migration}
    {m : Migration} (hsplit : ms = pre ++ m :: post) (hpre : ∀ m' ∈ pre, m'.name ∈ db.names)
    (hpresent : ∀ r ∈ m.statements, r ∈ db.relations) : Migrated ms (db.record m.name).2 := by
  rcases record_cases db m.name with heq | ⟨hnot, heq⟩
  · rw [heq]
    exact h
  · rw [heq]
    have hexact := h.names_eq hms hsplit hpre hnot
    refine ⟨?_, fun m' hm' hrec r hr => ?_, h.made, h.distinct⟩
    · rw [Database.names, Option.getD_some, hexact, hsplit, List.map_append, List.map_cons]
      exact ⟨post.map Migration.name, by simp⟩
    · rw [Database.names, Option.getD_some, List.mem_append, List.mem_singleton] at hrec
      rcases hrec with hold | hnew
      · exact h.present m' hm' hold r hr
      · have hm : m ∈ ms := by simp [hsplit]
        obtain rfl : m' = m := List.inj_on_of_nodup_map hms.names hm' hm hnew
        exact hpresent r hr

/-- What a process does is what the others rely on. -/
theorem grows_exec (hms : WellFormed ms) (o : MigrationOp) (ho : Allowed ms db o) :
    Grows ms db (db.exec o).2 := by
  cases o with
  | createSchemaMigrations =>
    have hnames := names_createSchemaMigrations db
    refine ⟨fun h => ⟨hnames ▸ h.names, fun m hm hrec => ?_, h.made, h.distinct⟩, ?_,
      List.prefix_refl _⟩
    · exact h.present m hm (hnames ▸ hrec)
    · rw [hnames]
  | selectNames => exact Grows.refl ms db
  | execute r =>
    refine ⟨fun h => h.create ho, ?_, ?_⟩
    · show db.names <+: (db.create r).2.names
      rcases create_cases db r with ⟨heq, -⟩ | ⟨heq, -⟩ | ⟨heq, -⟩
      · rw [heq]
      · rw [heq]
      · rw [heq]
        exact List.prefix_refl db.names
    · show db.relations <+: (db.create r).2.relations
      rcases create_cases db r with ⟨heq, -⟩ | ⟨heq, -⟩ | ⟨heq, -⟩
      · rw [heq]
      · rw [heq]
      · rw [heq]
        exact List.prefix_append _ _
  | insertName name =>
    obtain ⟨pre, m, post, hsplit, rfl, hpre, hpresent⟩ := ho
    refine ⟨fun h => h.record hms hsplit hpre hpresent, ?_, ?_⟩
    · show db.names <+: (db.record m.name).2.names
      rcases record_cases db m.name with heq | ⟨-, heq⟩
      · rw [heq]
      · rw [heq]
        exact List.prefix_append _ _
    · show db.relations <+: (db.record m.name).2.relations
      rcases record_cases db m.name with heq | ⟨-, heq⟩ <;> rw [heq]

theorem grows_handle (hms : WellFormed ms) (o : MigrationOp) (ho : Allowed ms db o) (d : Fate) :
    Grows ms db (Database.handle d o db).2 := by
  cases d with
  | done => exact grows_exec hms o ho
  | refused => exact Grows.refl ms db
  | lost => exact grows_exec hms o ho

/-- A statement whose process goes on was done. -/
theorem handle_eq_some {o : MigrationOp} {d : Fate} {r : MigrationSig.Res o}
    (h : (Database.handle d o db).1 = some r) :
    (Database.handle d o db).2 = (db.exec o).2 ∧ (db.exec o).1 = some r := by
  cases d with
  | done => exact ⟨rfl, h⟩
  | refused => cases h
  | lost => cases h

theorem mem_of_create (hms : WellFormed ms) (h : Migrated ms db) {r : Relation}
    (hr : r ∈ relationsOf ms) (hok : (db.create r).1 = some ()) :
    r ∈ (db.create r).2.relations := by
  rcases create_cases db r with ⟨heq, -⟩ | ⟨heq, hname⟩ | ⟨heq, -⟩
  · rw [heq] at hok
    cases hok
  · rw [heq]
    obtain ⟨r', hr', hsame⟩ := List.mem_map.1 hname
    rwa [← List.inj_on_of_nodup_map hms.relations (h.made r' hr') hr hsame]
  · rw [heq]
    exact List.mem_append_right _ List.mem_cons_self

theorem mem_of_record {name : String} (hok : (db.record name).1 = some ()) :
    name ∈ (db.record name).2.names := by
  rcases record_cases db name with heq | ⟨-, heq⟩
  · rw [heq] at hok
    cases hok
  · rw [heq]
    exact List.mem_append_right _ List.mem_cons_self

theorem names_of_selectNames {names : List String} (hok : (db.exec .selectNames).1 = some names) :
    db.names = names := by
  have happlied : db.applied = some names := hok
  rw [Database.names, happlied, Option.getD_some]

/-! ## Processes among each other -/

theorem executeAll_among (hms : WellFormed ms) {db₀ : Database} (h₀ : Migrated ms db₀)
    {l : List Relation} (hl : ∀ r ∈ l, r ∈ relationsOf ms) {done : List Relation} {db : Database}
    (hdb : Grows ms db₀ db) (hdone : ∀ r ∈ done, r ∈ db.relations) :
    (executeAll l).Among Database.handle (Grows ms) (Grows ms)
      (fun _ db' => Grows ms db₀ db' ∧ ∀ r ∈ done ++ l, r ∈ db'.relations) db := by
  induction l generalizing done db with
  | nil =>
    intro db' hgrows
    refine ⟨hdb.trans hgrows, fun r hr => ?_⟩
    rw [List.append_nil] at hr
    exact hgrows.relations.subset (hdone r hr)
  | cons r l ih =>
    intro db' hgrows d
    have hr := hl r List.mem_cons_self
    have hstep : Grows ms db' (Database.handle d (.execute r) db').2 :=
      grows_handle hms (.execute r) hr d
    refine ⟨hstep, fun u hu => ?_⟩
    obtain ⟨hsame, hok⟩ := handle_eq_some hu
    have hnow := hdb.trans (hgrows.trans hstep)
    have hdone' : ∀ r' ∈ done ++ [r], r' ∈ (Database.handle d (.execute r) db').2.relations := by
      intro r' hr'
      rcases List.mem_append.1 hr' with hold | hnew
      · exact hstep.relations.subset (hgrows.relations.subset (hdone r' hold))
      · rw [List.mem_singleton.1 hnew, hsame]
        exact mem_of_create hms ((hdb.trans hgrows).migrated h₀) hr hok
    have hrest := ih (fun r' hr' => hl r' (List.mem_cons_of_mem r hr')) hnow hdone'
    simpa only [List.append_assoc, List.singleton_append] using hrest

theorem applyEach_among (hms : WellFormed ms) {applied : List String} {rest : List Migration} :
    ∀ {pre : List Migration} {ran : List String} {db : Database}, ms = pre ++ rest →
      Migrated ms db → (∀ name ∈ applied, name ∈ db.names) → (∀ m ∈ pre, m.name ∈ db.names) →
      (applyEach applied rest ran).Among Database.handle (Grows ms) (Grows ms)
        (fun ran' db' => Migrated ms db' ∧ (∀ m ∈ ms, m.name ∈ db'.names) ∧
          ran' = ran ++ (rest.map Migration.name).filter (· ∉ applied)) db := by
  induction rest with
  | nil =>
    intro pre ran db hsplit h happlied hpre db' hgrows
    refine ⟨hgrows.migrated h, fun m hm => hgrows.names.subset (hpre m ?_), by simp⟩
    rwa [hsplit, List.append_nil] at hm
  | cons m rest ih =>
    intro pre ran db hsplit h happlied hpre
    have hsplit' : ms = (pre ++ [m]) ++ rest := by rw [hsplit, List.append_assoc]; rfl
    rw [applyEach]
    by_cases hm : m.name ∈ applied
    · rw [if_pos hm]
      have hrest := @ih (pre ++ [m]) ran db hsplit' h happlied fun m' hm' => by
        rcases List.mem_append.1 hm' with hold | hnew
        · exact hpre m' hold
        · rw [List.mem_singleton.1 hnew]
          exact happlied _ hm
      simpa [hm] using hrest
    · rw [if_neg hm]
      have hstatements : ∀ r ∈ m.statements, r ∈ relationsOf ms := by
        intro r hr
        rw [hsplit]
        exact List.mem_flatMap.2 ⟨m, by simp, hr⟩
      refine Prog.Among.bind (Grows.refl ms) ?_
      have hnone : ∀ r ∈ ([] : List Relation), r ∈ db.relations := by simp
      refine (executeAll_among hms h hstatements (Grows.refl ms db) hnone).imp ?_
      rintro - db₁ ⟨hgrows₁, hpresent₁⟩ db₂ hgrows₂ d
      have hgrows := hgrows₁.trans hgrows₂
      have hstep : Grows ms db₂ (Database.handle d (.insertName m.name) db₂).2 :=
        grows_handle hms (.insertName m.name) ⟨pre, m, rest, hsplit, rfl,
          fun m' hm' => hgrows.names.subset (hpre m' hm'),
          fun r hr => hgrows₂.relations.subset (hpresent₁ r hr)⟩ d
      refine ⟨hstep, fun u hu => ?_⟩
      obtain ⟨hsame, hok⟩ := handle_eq_some hu
      have hnow := hgrows.trans hstep
      have hrest := @ih (pre ++ [m]) (ran ++ [m.name]) _ hsplit' (hnow.migrated h)
        (fun name hname => hnow.names.subset (happlied name hname)) fun m' hm' => by
          rcases List.mem_append.1 hm' with hold | hnew
          · exact hnow.names.subset (hpre m' hold)
          · rw [List.mem_singleton.1 hnew, hsame]
            exact mem_of_record hok
      simpa [hm] using hrest

/-- The names that are left out are a suffix. -/
theorem filter_notMem_of_prefix {names applied : List String} (hnodup : names.Nodup)
    (h : applied <+: names) : names.filter (· ∉ applied) = names.drop applied.length := by
  obtain ⟨more, rfl⟩ := h
  rw [List.drop_left, List.filter_append]
  have hfirst : applied.filter (· ∉ applied) = [] := by
    refine List.filter_eq_nil_iff.2 fun name hname => ?_
    simp [hname]
  have hmore : more.filter (· ∉ applied) = more := by
    refine List.filter_eq_self.2 fun name hname => ?_
    have hnot : name ∉ applied := fun hold => (List.nodup_append.1 hnodup).2.2 _ hold _ hname rfl
    simp [hnot]
  rw [hfirst, hmore, List.nil_append]

/-- All that is to be recorded is. -/
theorem Migrated.complete (hms : WellFormed ms) (h : Migrated ms db)
    (hall : ∀ m ∈ ms, m.name ∈ db.names) : db.names = ms.map Migration.name := by
  refine h.names.sublist.eq_of_length_le ?_
  refine (List.subperm_of_subset hms.names fun name hname => ?_).length_le
  obtain ⟨m, hm, rfl⟩ := List.mem_map.1 hname
  exact hall m hm

/-- Where a process returns: all migrations are recorded, and it has run the last ones. -/
def Finished (ms : List Migration) (ran : List String) (db : Database) : Prop :=
  db.names = ms.map Migration.name ∧ ran <:+ ms.map Migration.name

theorem applyMigrations_among (hms : WellFormed ms) (h : Migrated ms db) :
    (applyMigrations ms).Among Database.handle (Grows ms) (Grows ms) (Finished ms) db := by
  intro db₁ hgrows₁ d
  have hcreate : Grows ms db₁ (Database.handle d .createSchemaMigrations db₁).2 :=
    grows_handle hms .createSchemaMigrations trivial d
  refine ⟨hcreate, fun u hu => ?_⟩
  intro db₂ hgrows₂ d'
  have hselect : Grows ms db₂ (Database.handle d' .selectNames db₂).2 :=
    grows_handle hms .selectNames trivial d'
  refine ⟨hselect, fun applied happlied => ?_⟩
  obtain ⟨hsame, hok⟩ := handle_eq_some happlied
  have hnames : (Database.handle d' .selectNames db₂).2.names = applied := by
    rw [hsame]
    exact names_of_selectNames hok
  have hnow := hgrows₁.trans (hcreate.trans (hgrows₂.trans hselect))
  have hmigrated := hnow.migrated h
  refine (applyEach_among hms (List.nil_append ms).symm hmigrated (fun name hname => hnames ▸ hname)
    (by simp)).imp ?_
  rintro ran db' ⟨hdb', hall, hran⟩
  refine ⟨hdb'.complete hms hall, ?_⟩
  rw [hran, List.nil_append, filter_notMem_of_prefix hms.names (hnames ▸ hmigrated.names)]
  exact List.drop_suffix _ _

/-- The database after what processes do, from an empty one. -/
def migrationPool (events : List (PoolEvent Unit Fate)) :
    Pool MigrationSig Database Unit (List String) :=
  Pool.run (fun _ => applyMigrations allMigrations) Database.handle ⟨{}, [], []⟩ events

theorem migrated_empty (ms : List Migration) : Migrated ms {} where
  names := List.nil_prefix
  present _ _ hrec := by simp [Database.names] at hrec
  made := by simp
  distinct := .nil

/-- **Processes that migrate one database**: the recorded migrations are the first ones, in order,
    with all their relations and no others, and a process that returns finds all recorded. -/
theorem applyMigrations_run (events : List (PoolEvent Unit Fate)) :
    Migrated allMigrations (migrationPool events).world ∧
      ∀ thread ∈ (migrationPool events).threads, ∀ ran, thread.rest = some (.pure ran) →
        (migrationPool events).world.names = allMigrations.map Migration.name ∧
          ran <:+ allMigrations.map Migration.name := by
  have hrefl := Grows.refl allMigrations
  have hprog (task : Unit) (db : Database) (hdb : Grows allMigrations {} db) :
      (applyMigrations allMigrations).Among Database.handle (Grows allMigrations)
        (Grows allMigrations) (Finished allMigrations) db :=
    applyMigrations_among allMigrations_wellFormed (hdb.migrated (migrated_empty _))
  obtain ⟨hgrows, hamong⟩ := Pool.run_among (Q := fun _ => Finished allMigrations)
    (s := ⟨{}, [], []⟩) hrefl (fun _ _ _ => Grows.trans) (fun _ _ => id) hprog (by simp [Pool.Among])
    events
  exact ⟨hgrows.migrated (migrated_empty _), fun thread hthread ran hran =>
    hamong.ended hrefl hthread hran⟩

/-! ## A process that is alone -/

theorem ready_mono {relations relations' : List Relation} (h : relations ⊆ relations')
    {r : Relation} (hr : r.ready relations) : r.ready relations' := by
  cases r with
  | table name columns => rfl
  | index name of columns =>
    rw [Relation.ready, List.any_eq_true] at hr ⊢
    obtain ⟨r', hr', hcolumns⟩ := hr
    exact ⟨r', h hr', hcolumns⟩

/-- Statements run when all before them have run. -/
theorem exec_executeAll (hms : WellFormed ms) {before l after : List Relation}
    (hsplit : relationsOf ms = before ++ (l ++ after)) (h : Migrated ms db)
    (hbefore : ∀ r ∈ before, r ∈ db.relations) :
    ∃ db', (executeAll l).exec Database.exec db = (some (), db') ∧ Migrated ms db' ∧
      db'.applied = db.applied ∧ ∀ r ∈ before ++ l, r ∈ db'.relations := by
  induction l generalizing before db with
  | nil => exact ⟨db, rfl, h, rfl, by simpa using hbefore⟩
  | cons r l ih =>
    have hr : r ∈ relationsOf ms := by simp [hsplit]
    have hready : r.ready db.relations := by
      have htake : r.ready ((relationsOf ms).take before.length) :=
        hms.ready before.length (by simp [hsplit]) r (by simp [hsplit])
      rw [hsplit, List.take_left] at htake
      exact ready_mono hbefore htake
    obtain ⟨hok, happlied⟩ : (db.create r).1 = some () ∧ (db.create r).2.applied = db.applied := by
      rcases create_cases db r with ⟨-, hnot⟩ | ⟨heq, -⟩ | ⟨heq, -⟩
      · exact absurd hready hnot
      · rw [heq]
        exact ⟨rfl, rfl⟩
      · rw [heq]
        exact ⟨rfl, rfl⟩
    have hgrows : Grows ms db (db.exec (.execute r)).2 := grows_exec hms (.execute r) hr
    have hsplit' : relationsOf ms = (before ++ [r]) ++ (l ++ after) := by simpa using hsplit
    obtain ⟨db', hexec, hmigrated, happlied', hall⟩ := ih hsplit'
      (h.create hr) fun r' hr' => by
        rcases List.mem_append.1 hr' with hold | hnew
        · exact hgrows.relations.subset (hbefore r' hold)
        · rw [List.mem_singleton.1 hnew]
          exact mem_of_create hms h hr hok
    refine ⟨db', ?_, hmigrated, happlied'.trans happlied, by simpa using hall⟩
    have hstep : db.exec (.execute r) = (some (), (db.create r).2) := Prod.ext hok rfl
    rw [executeAll, Prog.exec_op_of hstep, hexec]

/-- Migrations that are missing are run and recorded, in order. -/
theorem exec_applyEach (hms : WellFormed ms) {applied : List String} {pre rest : List Migration}
    (hsplit : ms = pre ++ rest) (hrest : ∀ m ∈ rest, m.name ∉ applied) (h : Migrated ms db)
    (happlied : db.applied = some (pre.map Migration.name)) (ran : List String) :
    ∃ db', (applyEach applied rest ran).exec Database.exec db =
        (some (ran ++ rest.map Migration.name), db') ∧ Migrated ms db' ∧
      db'.applied = some (ms.map Migration.name) := by
  induction rest generalizing pre db ran with
  | nil =>
    refine ⟨db, by simp [applyEach], h, ?_⟩
    rw [happlied, hsplit, List.append_nil]
  | cons m rest ih =>
    have hnames : db.names = pre.map Migration.name := by
      rw [Database.names, happlied, Option.getD_some]
    have hflat : relationsOf ms = relationsOf pre ++ (m.statements ++ relationsOf rest) := by
      simp [relationsOf, hsplit]
    obtain ⟨db₁, hexec, h₁, happlied₁, hpresent⟩ := exec_executeAll hms hflat h fun r hr => by
      obtain ⟨m', hm', hr'⟩ := List.mem_flatMap.1 hr
      exact h.present m' (by simp [hsplit, hm']) (hnames ▸ List.mem_map_of_mem hm') r hr'
    have hnot : m.name ∉ pre.map Migration.name := by
      have hnodup := hms.names
      rw [hsplit, List.map_append, List.map_cons] at hnodup
      exact fun hmem => (List.nodup_append.1 hnodup).2.2 _ hmem _ List.mem_cons_self rfl
    have hinsert : db₁.record m.name =
        (some (), { db₁ with applied := some (pre.map Migration.name ++ [m.name]) }) := by
      simp only [Database.record, happlied₁, happlied, if_neg hnot]
    have h₂ := h₁.record hms hsplit (fun m' hm' => by
        rw [Database.names, happlied₁, happlied, Option.getD_some]
        exact List.mem_map_of_mem hm') fun r hr => hpresent r (List.mem_append_right _ hr)
    rw [hinsert] at h₂
    have hsplit' : ms = (pre ++ [m]) ++ rest := by simp [hsplit]
    obtain ⟨db', hexec', h', happlied'⟩ := ih hsplit'
      (fun m' hm' => hrest m' (List.mem_cons_of_mem m hm')) h₂ (by simp) (ran ++ [m.name])
    refine ⟨db', ?_, h', happlied'⟩
    rw [applyEach, if_neg (hrest m List.mem_cons_self), Prog.bind_eq, Prog.exec_bind_of hexec,
      Prog.bind_eq, Prog.perform_bind, Prog.exec_op_of hinsert, hexec']
    simp

theorem applyEach_append {applied : List String} {pre : List Migration}
    (hpre : ∀ m ∈ pre, m.name ∈ applied) (rest : List Migration) (ran : List String) :
    applyEach applied (pre ++ rest) ran = applyEach applied rest ran := by
  induction pre with
  | nil => rfl
  | cons m pre ih =>
    rw [List.cons_append, applyEach, if_pos (hpre m List.mem_cons_self)]
    exact ih fun m' hm' => hpre m' (List.mem_cons_of_mem m hm')

/-- A process that is alone returns the missing names, and leaves none missing. -/
theorem exec_applyMigrations (hms : WellFormed ms) (h : Migrated ms db) :
    ∃ db', (applyMigrations ms).exec Database.exec db =
        (some ((ms.map Migration.name).drop db.names.length), db') ∧ Migrated ms db' ∧
      db'.names = ms.map Migration.name := by
  obtain ⟨pre, rest, hsplit, hpre⟩ : ∃ pre rest, ms = pre ++ rest ∧
      pre.map Migration.name = db.names := by
    refine ⟨ms.take db.names.length, ms.drop db.names.length, (List.take_append_drop _ _).symm, ?_⟩
    rw [List.map_take]
    exact (List.prefix_iff_eq_take.1 h.names).symm
  have hrest : ∀ m ∈ rest, m.name ∉ db.names := by
    intro m hm hrec
    have hnodup := hms.names
    rw [hsplit, List.map_append, hpre] at hnodup
    exact (List.nodup_append.1 hnodup).2.2 _ hrec _ (List.mem_map_of_mem hm) rfl
  have hcreated : Migrated ms { db with applied := some db.names } :=
    ⟨h.names, h.present, h.made, h.distinct⟩
  obtain ⟨db', hexec, h', happlied⟩ := exec_applyEach hms hsplit hrest hcreated
    (congrArg some hpre.symm) []
  refine ⟨db', ?_, h', by rw [Database.names, happlied, Option.getD_some]⟩
  have hdrop : (ms.map Migration.name).drop db.names.length = [] ++ rest.map Migration.name := by
    rw [hsplit, List.map_append, hpre, List.drop_left, List.nil_append]
  have hskip : applyEach db.names ms [] = applyEach db.names rest [] := by
    rw [hsplit]
    refine applyEach_append (fun m hm => ?_) rest []
    rw [← hpre]
    exact List.mem_map_of_mem hm
  rw [hdrop, ← hexec, ← hskip]
  rfl

/-- **After any of that**, a process that is alone runs exactly what is missing, in order, and
    the next one nothing. -/
theorem applyMigrations_resumes (events : List (PoolEvent Unit Fate)) :
    ∃ db', (applyMigrations allMigrations).exec Database.exec (migrationPool events).world =
        (some ((allMigrations.map Migration.name).drop (migrationPool events).world.names.length),
          db') ∧
      db'.names = allMigrations.map Migration.name ∧
      (∀ r, r ∈ db'.relations ↔ r ∈ relationsOf allMigrations) ∧
      ((applyMigrations allMigrations).exec Database.exec db').1 = some [] := by
  obtain ⟨db', hexec, h', hnames⟩ :=
    exec_applyMigrations allMigrations_wellFormed (applyMigrations_run events).1
  refine ⟨db', hexec, hnames, fun r => ⟨h'.made r, fun hr => ?_⟩, ?_⟩
  · obtain ⟨m, hm, hr⟩ := List.mem_flatMap.1 hr
    exact h'.present m hm (hnames ▸ List.mem_map_of_mem hm) r hr
  · obtain ⟨db'', hagain, -⟩ := exec_applyMigrations allMigrations_wellFormed h'
    rw [hagain, hnames, List.drop_length]

end AX10M
