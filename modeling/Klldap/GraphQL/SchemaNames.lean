import Klldap.Placement

/-!
# Klldap.GraphQL.SchemaNames: the names of custom attributes

A custom attribute is added under a name that the schema of the *other* kind of entry does not know. The
schema of its own kind is not asked, so a custom attribute can take the name of a built-in alias.
-/

namespace Klldap

open Lib (Eff except_bind_ok)
open Lib.Text
open Opaque (Suite)

namespace GraphQL

/-! ## Unambiguous names -/

/-- Each name or alias stands for at most one attribute. -/
def Unambiguous (l : AttributeList) : Prop :=
  ∀ n, ∀ a ∈ l, ∀ b ∈ l, a.answersTo n = true → b.answersTo n = true → a = b

def sharesName (a b : AttributeSchema) : Bool :=
  (a.name :: a.aliases).any fun n => b.answersTo n

theorem sharesName_of_answersTo {a b : AttributeSchema} {n : String} (ha : a.answersTo n = true)
    (hb : b.answersTo n = true) : sharesName a b = true := by
  have hcongr : ∀ m, eqIgnoreAsciiCase m n = true → b.answersTo m = true := by
    intro m hm
    rw [eqIgnoreAsciiCase_iff] at hm
    rw [← answersTo_asciiLower, hm, answersTo_asciiLower]
    exact hb
  unfold sharesName
  rw [List.any_cons, Bool.or_eq_true, List.any_eq_true]
  unfold AttributeSchema.answersTo at ha
  rw [Bool.or_eq_true, List.any_eq_true] at ha
  rcases ha with ha | ⟨m, hm, ha⟩
  · exact .inl (hcongr _ ha)
  · exact .inr ⟨m, hm, hcongr m ha⟩

theorem unambiguous_userAttributes : Unambiguous PublicSchema.userAttributes := by
  have hall : ∀ a ∈ PublicSchema.userAttributes, ∀ b ∈ PublicSchema.userAttributes,
      sharesName a b = true → a = b := by decide +kernel
  exact fun n a ha b hb han hbn => hall a ha b hb (sharesName_of_answersTo han hbn)

theorem unambiguous_groupAttributes : Unambiguous PublicSchema.groupAttributes := by
  have hall : ∀ a ∈ PublicSchema.groupAttributes, ∀ b ∈ PublicSchema.groupAttributes,
      sharesName a b = true → a = b := by decide +kernel
  exact fun n a ha b hb han hbn => hall a ha b hb (sharesName_of_answersTo han hbn)

theorem answersTo_of_no_aliases {a : AttributeSchema} (ha : a.aliases = []) {n : String} :
    a.answersTo n = true ↔ asciiLower a.name = asciiLower n := by
  simp [AttributeSchema.answersTo, ha, eqIgnoreAsciiCase]

theorem getByNameOrAlias_eq_none {l : AttributeList} {n : String} :
    getByNameOrAlias l n = none ↔ ∀ a ∈ l, a.answersTo n = false := by
  simp [getByNameOrAlias]

theorem Unambiguous.append {l l' : AttributeList} (hl : Unambiguous l)
    (haliases : ∀ a ∈ l', a.aliases = []) (hlower : ∀ a ∈ l', asciiLower a.name = a.name)
    (hnodup : (l'.map AttributeSchema.name).Nodup)
    (hfresh : ∀ a ∈ l', getByNameOrAlias l a.name = none) : Unambiguous (l ++ l') := by
  have hmixed : ∀ n, ∀ a ∈ l, ∀ b ∈ l', a.answersTo n = true → b.answersTo n = true → False := by
    intro n a ha b hb han hbn
    have hname := (answersTo_of_no_aliases (haliases b hb)).mp hbn
    have hnot := getByNameOrAlias_eq_none.mp (hfresh b hb) a ha
    rw [← answersTo_asciiLower, hname, answersTo_asciiLower, han] at hnot
    cases hnot
  intro n a ha b hb han hbn
  rcases List.mem_append.mp ha with ha | ha
  · rcases List.mem_append.mp hb with hb | hb
    · exact hl n a ha b hb han hbn
    · exact (hmixed n a ha b hb han hbn).elim
  · rcases List.mem_append.mp hb with hb | hb
    · exact (hmixed n b hb a ha hbn han).elim
    · have hname : a.name = b.name := by
        rw [← hlower a ha, ← hlower b hb, (answersTo_of_no_aliases (haliases a ha)).mp han,
          (answersTo_of_no_aliases (haliases b hb)).mp hbn]
      exact List.inj_on_of_nodup_map hnodup ha hb hname

theorem Unambiguous.find_name {l : AttributeList} (hl : Unambiguous l) {a : AttributeSchema}
    (ha : a ∈ l) : getByNameOrAlias l a.name = some a := by
  have hself : a.answersTo a.name = true := by simp [AttributeSchema.answersTo, eqIgnoreAsciiCase]
  cases hfind : getByNameOrAlias l a.name with
  | none => 
    rw [getByNameOrAlias_eq_none.mp hfind a ha] at hself
    cases hself
  | some b =>
    obtain ⟨hb, hbn⟩ := getByNameOrAlias_some hfind
    rw [hl a.name a ha b hb hself hbn]

section

variable [External]

open Sql

/-- The custom attributes of a schema table. -/
abbrev SchemaTable := Lib.Table AttributeSchemaRow AttributeName AttributeSchemaRow.attributeName

/-- Custom attributes without aliases, under names that a built-in schema does not have. -/
structure TidyTable (builtin : AttributeList) (t : SchemaTable) : Prop where
  aliases : ∀ r ∈ t.rows, r.isHardcoded = false → (toAttributeSchema r).aliases = []
  fresh : ∀ r ∈ t.rows, r.isHardcoded = false → getByNameOrAlias builtin r.attributeName.asStr = none

theorem mem_dynamicAttributes {t : SchemaTable} {a : AttributeSchema} :
    a ∈ dynamicAttributes t ↔ ∃ r ∈ t.rows, r.isHardcoded = false ∧ toAttributeSchema r = a := by
  simp only [dynamicAttributes, List.mem_filter, List.mem_map, mem_orderBy]
  constructor
  · rintro ⟨⟨r, hr, rfl⟩, hcustom⟩
    exact ⟨r, hr, by simpa [toAttributeSchema] using hcustom, rfl⟩
  · rintro ⟨r, hr, hcustom, rfl⟩
    exact ⟨⟨r, hr, rfl⟩, by simp [toAttributeSchema, hcustom]⟩

theorem nodup_dynamicAttributes (t : SchemaTable) :
    ((dynamicAttributes t).map AttributeSchema.name).Nodup := by
  have hnames : (((orderBy (fun r => r.attributeName.asStr) t.rows).map toAttributeSchema).map
      AttributeSchema.name).Nodup := by
    rw [List.map_map]
    refine ((List.perm_insertionSort _ _).map _).nodup_iff.mpr ?_
    refine List.Nodup.of_map AttributeName.new ?_
    rw [List.map_map]
    have hkeys : t.rows.map (AttributeName.new ∘ AttributeSchema.name ∘ toAttributeSchema) =
        t.rows.map AttributeSchemaRow.attributeName :=
      List.map_congr_left fun r _ => AttributeName.new_asStr r.attributeName
    rw [hkeys]
    exact t.nodup
  exact hnames.sublist (List.filter_sublist.map _)

omit [External] in
theorem mergeAttributes_eq_append {full dynamic : AttributeList}
    (hnodup : (dynamic.map AttributeSchema.name).Nodup)
    (hfresh : ∀ a ∈ dynamic, ∀ b ∈ full, b.name ≠ a.name) :
    mergeAttributes full dynamic = full ++ dynamic := by
  induction dynamic generalizing full with
  | nil => exact (List.append_nil full).symm
  | cons a dynamic ih =>
    rw [List.map_cons, List.nodup_cons] at hnodup
    have hany : full.any (fun existing => existing.name = a.name) = false := by
      simpa using hfresh a List.mem_cons_self
    have hstep : mergeAttributes full (a :: dynamic) = mergeAttributes (full ++ [a]) dynamic := by
      simp only [mergeAttributes, List.foldl_cons, hany]
      rfl
    rw [hstep, ih hnodup.2, List.append_assoc]
    · rfl
    · intro c hc b hb
      rcases List.mem_append.mp hb with hb | hb
      · exact hfresh c (List.mem_cons_of_mem a hc) b hb
      · rw [List.mem_singleton.mp hb]
        exact fun heq => hnodup.1 (heq ▸ List.mem_map_of_mem hc)

theorem TidyTable.merge {builtin : AttributeList} {t : SchemaTable} (h : TidyTable builtin t) :
    mergeAttributes builtin (dynamicAttributes t) = builtin ++ dynamicAttributes t := by
  refine mergeAttributes_eq_append (nodup_dynamicAttributes t) fun a ha b hb heq => ?_
  obtain ⟨r, hr, hcustom, rfl⟩ := mem_dynamicAttributes.mp ha
  have hnot := getByNameOrAlias_eq_none.mp (h.fresh r hr hcustom) b hb
  have hself : b.answersTo r.attributeName.asStr = true := by
    have : b.name = r.attributeName.asStr := heq
    simp [AttributeSchema.answersTo, eqIgnoreAsciiCase, this]
  rw [hself] at hnot
  cases hnot

theorem TidyTable.unambiguous {builtin : AttributeList} (hb : Unambiguous builtin) {t : SchemaTable}
    (h : TidyTable builtin t) : Unambiguous (builtin ++ dynamicAttributes t) := by
  refine hb.append (fun a ha => ?_) (dynamicAttributes_lower t) (nodup_dynamicAttributes t)
    fun a ha => ?_
  · obtain ⟨r, hr, hcustom, rfl⟩ := mem_dynamicAttributes.mp ha
    exact h.aliases r hr hcustom
  · obtain ⟨r, hr, hcustom, rfl⟩ := mem_dynamicAttributes.mp ha
    exact h.fresh r hr hcustom

theorem TidyTable.found {builtin : AttributeList} (hb : Unambiguous builtin) {t : SchemaTable}
    (h : TidyTable builtin t) {r : AttributeSchemaRow} (hr : r ∈ t.rows) (hcustom : r.isHardcoded = false) :
    getByNameOrAlias (builtin ++ dynamicAttributes t) r.attributeName.asStr =
      some (toAttributeSchema r) := by
  have hmem : toAttributeSchema r ∈ dynamicAttributes t :=
    mem_dynamicAttributes.mpr ⟨r, hr, hcustom, rfl⟩
  have hname : r.attributeName.asStr = (toAttributeSchema r).name := rfl
  rw [hname]
  exact (h.unambiguous hb).find_name (List.mem_append_right builtin hmem)

theorem TidyTable.insert (hjson : External.jsonToStrings "[]" = some []) {builtin : AttributeList}
    {t t' : SchemaTable} (h : TidyTable builtin t) {request : CreateAttributeRequest}
    (hinsert : t.insert? (newAttributeRow request) = some t')
    (hfree : getByNameOrAlias builtin request.name.asStr = none) : TidyTable builtin t' := by
  have hrows := Lib.Table.rows_insert? hinsert
  constructor
  · intro r hr hcustom
    rw [hrows] at hr
    rcases List.mem_append.mp hr with hr | hr
    · exact h.aliases r hr hcustom
    · rw [List.mem_singleton.mp hr]
      simp [toAttributeSchema, newAttributeRow, hjson]
  · intro r hr hcustom
    rw [hrows] at hr
    rcases List.mem_append.mp hr with hr | hr
    · exact h.fresh r hr hcustom
    · rw [List.mem_singleton.mp hr]
      exact hfree

/-- The custom names of a database are fresh, and those of users are not those of groups. -/
structure Tidy (db : Store) : Prop where
  users : TidyTable PublicSchema.userAttributes db.userAttributeSchema
  groups : TidyTable PublicSchema.groupAttributes db.groupAttributeSchema
  usersFresh : ∀ r ∈ db.userAttributeSchema.rows, r.isHardcoded = false →
    getByNameOrAlias PublicSchema.groupAttributes r.attributeName.asStr = none
  groupsFresh : ∀ r ∈ db.groupAttributeSchema.rows, r.isHardcoded = false →
    getByNameOrAlias PublicSchema.userAttributes r.attributeName.asStr = none
  apart : ∀ r ∈ db.userAttributeSchema.rows, ∀ r' ∈ db.groupAttributeSchema.rows,
    r.isHardcoded = false → r'.isHardcoded = false → r.attributeName ≠ r'.attributeName

theorem tidy_of_builtin {db : Store} (hu : ∀ r ∈ db.userAttributeSchema.rows, r.isHardcoded = true)
    (hg : ∀ r ∈ db.groupAttributeSchema.rows, r.isHardcoded = true) : Tidy db where
  users := ⟨fun r hr hcustom => by simp [hu r hr] at hcustom, fun r hr hcustom => by
    simp [hu r hr] at hcustom⟩
  groups := ⟨fun r hr hcustom => by simp [hg r hr] at hcustom, fun r hr hcustom => by
    simp [hg r hr] at hcustom⟩
  usersFresh r hr hcustom := by simp [hu r hr] at hcustom
  groupsFresh r hr hcustom := by simp [hg r hr] at hcustom
  apart r hr _ _ hcustom := by simp [hu r hr] at hcustom

/-- What the schema of a database has to be like: every name or alias stands for one attribute of users
and one of groups at most, a custom attribute is found under its name, and the other schema does not
have that name. -/
structure NamesFit (db : Store) (schema : Schema) : Prop where
  users : Unambiguous schema.userAttributes
  groups : Unambiguous schema.groupAttributes
  userFound : ∀ r ∈ db.userAttributeSchema.rows, r.isHardcoded = false →
    getByNameOrAlias schema.userAttributes r.attributeName.asStr = some (toAttributeSchema r)
  groupFound : ∀ r ∈ db.groupAttributeSchema.rows, r.isHardcoded = false →
    getByNameOrAlias schema.groupAttributes r.attributeName.asStr = some (toAttributeSchema r)
  userApart : ∀ r ∈ db.userAttributeSchema.rows, r.isHardcoded = false →
    getByNameOrAlias schema.groupAttributes r.attributeName.asStr = none
  groupApart : ∀ r ∈ db.groupAttributeSchema.rows, r.isHardcoded = false →
    getByNameOrAlias schema.userAttributes r.attributeName.asStr = none

theorem Tidy.schema_eq {db : Store} (h : Tidy db) {schema : Schema} (hschema : getSchema db = .ok schema) :
    schema.userAttributes = PublicSchema.userAttributes ++ dynamicAttributes db.userAttributeSchema ∧
      schema.groupAttributes =
        PublicSchema.groupAttributes ++ dynamicAttributes db.groupAttributeSchema := by
  obtain ⟨posixSettings, -, hschema⟩ := except_bind_ok.mp hschema
  rw [← Except.ok.inj hschema]
  exact ⟨h.users.merge, h.groups.merge⟩

theorem none_of_fresh {builtin : AttributeList} {t : SchemaTable} (h : TidyTable builtin t)
    {n : AttributeName} (hb : getByNameOrAlias builtin n.asStr = none)
    (ht : ∀ r ∈ t.rows, r.isHardcoded = false → r.attributeName ≠ n) :
    getByNameOrAlias (builtin ++ dynamicAttributes t) n.asStr = none := by
  rw [getByNameOrAlias_eq_none] at hb ⊢
  intro a ha
  rcases List.mem_append.mp ha with ha | ha
  · exact hb a ha
  · obtain ⟨r, hr, hcustom, rfl⟩ := mem_dynamicAttributes.mp ha
    rw [Bool.eq_false_iff]
    intro hanswers
    have hname : asciiLower r.attributeName.asStr = asciiLower n.asStr :=
      (answersTo_of_no_aliases (h.aliases r hr hcustom)).mp hanswers
    have hlower (m : AttributeName) : asciiLower m.asStr = m.asStr := m.name.lower
    rw [hlower, hlower] at hname
    refine ht r hr hcustom ?_
    rw [← AttributeName.new_asStr r.attributeName, hname, AttributeName.new_asStr]

theorem Tidy.namesFit {db : Store} (h : Tidy db) {schema : Schema} (hschema : getSchema db = .ok schema) :
    NamesFit db schema := by
  obtain ⟨husers, hgroups⟩ := h.schema_eq hschema
  constructor
  · rw [husers]
    exact h.users.unambiguous unambiguous_userAttributes
  · rw [hgroups]
    exact h.groups.unambiguous unambiguous_groupAttributes
  · intro r hr hcustom
    rw [husers]
    exact h.users.found unambiguous_userAttributes hr hcustom
  · intro r hr hcustom
    rw [hgroups]
    exact h.groups.found unambiguous_groupAttributes hr hcustom
  · intro r hr hcustom
    rw [hgroups]
    exact none_of_fresh h.groups (h.usersFresh r hr hcustom) fun r' hr' hcustom' heq =>
      h.apart r hr r' hr' hcustom hcustom' heq.symm
  · intro r hr hcustom
    rw [husers]
    exact none_of_fresh h.users (h.groupsFresh r hr hcustom) fun r' hr' hcustom' heq =>
      h.apart r' hr' r hr hcustom' hcustom heq

/-! ## Adding and deleting attributes -/

theorem fresh_of_none {builtin : AttributeList} {t : SchemaTable} {n : AttributeName}
    (h : getByNameOrAlias (builtin ++ dynamicAttributes t) n.asStr = none) :
    getByNameOrAlias builtin n.asStr = none ∧
      ∀ r ∈ t.rows, r.isHardcoded = false → r.attributeName ≠ n := by
  rw [getByNameOrAlias_eq_none] at h
  refine ⟨getByNameOrAlias_eq_none.mpr fun a ha => h a (List.mem_append_left _ ha), ?_⟩
  rintro r hr hcustom rfl
  have hnot := h _ (List.mem_append_right _ (mem_dynamicAttributes.mpr ⟨r, hr, hcustom, rfl⟩))
  simp [AttributeSchema.answersTo, eqIgnoreAsciiCase, toAttributeSchema] at hnot

theorem Tidy.addUser (hjson : External.jsonToStrings "[]" = some []) {db : Store} (h : Tidy db)
    {schema : Schema} (hschema : getSchema db = .ok schema) {request : CreateAttributeRequest}
    (hown : getByNameOrAlias schema.userAttributes request.name.asStr = none)
    (hother : getByNameOrAlias schema.groupAttributes request.name.asStr = none) {t : SchemaTable}
    (ht : db.userAttributeSchema.insert? (newAttributeRow request) = some t) :
    Tidy { db with userAttributeSchema := t } := by
  obtain ⟨husers, hgroups⟩ := h.schema_eq hschema
  rw [husers] at hown
  rw [hgroups] at hother
  obtain ⟨hown, -⟩ := fresh_of_none hown
  obtain ⟨hother, hapart⟩ := fresh_of_none hother
  have hrows : t.rows = db.userAttributeSchema.rows ++ [newAttributeRow request] :=
    Lib.Table.rows_insert? ht
  refine ⟨h.users.insert hjson ht hown, h.groups, fun r hr hcustom => ?_, h.groupsFresh,
    fun r hr r' hr' hcustom hcustom' => ?_⟩
  · rcases List.mem_append.mp (hrows ▸ hr) with hr | hr
    · exact h.usersFresh r hr hcustom
    · rw [List.mem_singleton.mp hr]
      exact hother
  · rcases List.mem_append.mp (hrows ▸ hr) with hr | hr
    · exact h.apart r hr r' hr' hcustom hcustom'
    · rw [List.mem_singleton.mp hr]
      exact (hapart r' hr' hcustom').symm

theorem Tidy.addGroup (hjson : External.jsonToStrings "[]" = some []) {db : Store} (h : Tidy db)
    {schema : Schema} (hschema : getSchema db = .ok schema) {request : CreateAttributeRequest}
    (hown : getByNameOrAlias schema.groupAttributes request.name.asStr = none)
    (hother : getByNameOrAlias schema.userAttributes request.name.asStr = none) {t : SchemaTable}
    (ht : db.groupAttributeSchema.insert? (newAttributeRow request) = some t) :
    Tidy { db with groupAttributeSchema := t } := by
  obtain ⟨husers, hgroups⟩ := h.schema_eq hschema
  rw [hgroups] at hown
  rw [husers] at hother
  obtain ⟨hown, -⟩ := fresh_of_none hown
  obtain ⟨hother, hapart⟩ := fresh_of_none hother
  have hrows : t.rows = db.groupAttributeSchema.rows ++ [newAttributeRow request] :=
    Lib.Table.rows_insert? ht
  refine ⟨h.users, h.groups.insert hjson ht hown, h.usersFresh, fun r hr hcustom => ?_,
    fun r hr r' hr' hcustom hcustom' => ?_⟩
  · rcases List.mem_append.mp (hrows ▸ hr) with hr | hr
    · exact h.groupsFresh r hr hcustom
    · rw [List.mem_singleton.mp hr]
      exact hother
  · rcases List.mem_append.mp (hrows ▸ hr') with hr' | hr'
    · exact h.apart r hr r' hr' hcustom hcustom'
    · rw [List.mem_singleton.mp hr']
      exact hapart r hr hcustom

theorem Tidy.delete {db db' : Store} (h : Tidy db)
    (hu : ∀ r ∈ db'.userAttributeSchema.rows, r ∈ db.userAttributeSchema.rows)
    (hg : ∀ r ∈ db'.groupAttributeSchema.rows, r ∈ db.groupAttributeSchema.rows) : Tidy db' where
  users := ⟨fun r hr => h.users.aliases r (hu r hr), fun r hr => h.users.fresh r (hu r hr)⟩
  groups := ⟨fun r hr => h.groups.aliases r (hg r hr), fun r hr => h.groups.fresh r (hg r hr)⟩
  usersFresh r hr := h.usersFresh r (hu r hr)
  groupsFresh r hr := h.groupsFresh r (hg r hr)
  apart r hr r' hr' := h.apart r (hu r hr) r' (hg r' hr')

/-! ## Runs -/

variable {S : Suite} (setup : S.ServerSetup) (rng : S.Coins) (out : Outside)

theorem checkedCall_db (v : ValidationResults) (message : String) (check : Schema → Except FieldError Unit)
    (call : Services S World → Eff World DomainError Unit) {m : Db Unit}
    (hcall : call (sqlServices S setup rng out) = onDb m) (w : World) :
    let w' := ((do
      let handler ← orUnauthorized message (getAdminHandler (sqlServices S setup rng out) v)
      let schema ← orFail handler.getSchema
      Eff.lift (check schema)
      orFail (call handler)
      pure .success : Field World Response) w).2
    w'.db = w.db ∨
      ∃ schema, getSchema w.db = .ok schema ∧ check schema = .ok () ∧ w'.db = (m w.db).2 := by
  intro w'
  by_cases hadmin : v.isAdmin = true
  · have hhandler : getAdminHandler (sqlServices S setup rng out) v = some (sqlServices S setup rng out) :=
      if_pos hadmin
    have hw' : w'.db = (((onDb (Eff.query getSchema)).mapErr FieldError.ofDomain >>= fun schema => (do
        Eff.lift (check schema)
        orFail (call (sqlServices S setup rng out))
        pure .success : Field World Response)) w).2.db := by
      simp only [w', hhandler]
      rfl
    rw [hw', query_bind_snd]
    cases hschema : getSchema w.db with
    | error e => exact .inl rfl
    | ok schema =>
      cases hcheck : check schema with
      | error e =>
        left
        simp only [Eff.bind_run, Eff.lift, hcheck]
      | ok u =>
        right
        refine ⟨schema, rfl, hcheck, ?_⟩
        simp only [Eff.bind_run, Eff.lift, hcheck, orFail, hcall, Eff.mapErr, onDb, Eff.zoom]
        cases m w.db with
        | mk r db' => cases r <;> rfl
  · left
    have hhandler : getAdminHandler (sqlServices S setup rng out) v = none := if_neg hadmin
    simp only [w', hhandler]
    rfl

/-- A custom attribute is added only under a name that is free in its own schema. -/
def AttributeOk (db : Store) : Mutation → Prop
  | .addUserAttribute name _ _ _ _ => ∀ schema, getSchema db = .ok schema →
    getByNameOrAlias schema.userAttributes name = none
  | .addGroupAttribute name _ _ _ _ => ∀ schema, getSchema db = .ok schema →
    getByNameOrAlias schema.groupAttributes name = none
  | .deleteUserAttribute _ => True
  | .deleteGroupAttribute _ => True
  | _ => False

/-- A request to change the schema, with who makes it and what the world outside answers. -/
structure SchemaInput (S : Suite) where
  out : Outside
  rng : S.Coins
  caller : ValidationResults
  request : Mutation

def schemaStep (w : World) (i : SchemaInput S) : Bool × World :=
  answered (i.request.execute ⟨sqlServices S setup i.rng i.out, i.caller⟩) w

theorem checkNewAttribute_ok {kind : String} {other : AttributeList} {name : String}
    (h : checkNewAttribute kind other name = .ok ()) : getByNameOrAlias other name = none := by
  unfold checkNewAttribute at h
  split at h
  · cases h
  · rename_i hnot
    simpa using hnot

omit [External] in
theorem addUserAttribute_db (request : CreateAttributeRequest) (db : Store) :
    (Sql.addUserAttribute request db).2 = db ∨
      ∃ t, db.userAttributeSchema.insert? (newAttributeRow request) = some t ∧
        (Sql.addUserAttribute request db).2 = { db with userAttributeSchema := t } := by
  unfold Sql.addUserAttribute
  rw [Eff.bind_run, Eff.reads_run]
  cases hinsert : db.userAttributeSchema.insert? (newAttributeRow request) with
  | none => exact .inl rfl
  | some t => exact .inr ⟨t, rfl, rfl⟩

omit [External] in
theorem addGroupAttribute_db (request : CreateAttributeRequest) (db : Store) :
    (Sql.addGroupAttribute request db).2 = db ∨
      ∃ t, db.groupAttributeSchema.insert? (newAttributeRow request) = some t ∧
        (Sql.addGroupAttribute request db).2 = { db with groupAttributeSchema := t } := by
  unfold Sql.addGroupAttribute
  rw [Eff.bind_run, Eff.reads_run]
  cases hinsert : db.groupAttributeSchema.insert? (newAttributeRow request) with
  | none => exact .inl rfl
  | some t => exact .inr ⟨t, rfl, rfl⟩

theorem schemaStep_tidy (hjson : External.jsonToStrings "[]" = some []) {w : World} {i : SchemaInput S}
    (hok : AttributeOk w.db i.request) (h : Tidy w.db) : Tidy (schemaStep setup w i).2.db := by
  obtain ⟨out, rng, caller, request⟩ := i
  cases request with
  | addUserAttribute name typ isList isVisible isEditable =>
    have hstep := checkedCall_db setup rng out caller "Unauthorized attribute creation"
      (fun schema => checkNewAttribute "group" schema.groupAttributes name)
      (fun h => h.addUserAttribute ⟨.new name, typ, isList, isVisible, isEditable⟩) rfl w
    rcases hstep with hsame | ⟨schema, hschema, hcheck, hdb⟩
    · exact hsame ▸ h
    · refine Eq.mpr (congrArg Tidy hdb) ?_
      rcases addUserAttribute_db ⟨.new name, typ, isList, isVisible, isEditable⟩ w.db with
        hsame | ⟨t, ht, hdb⟩
      · rw [hsame]
        exact h
      · rw [hdb]
        refine h.addUser hjson hschema ?_ ?_ ht
        · exact (getByNameOrAlias_asciiLower _ name).trans (hok schema hschema)
        · exact (getByNameOrAlias_asciiLower _ name).trans (checkNewAttribute_ok hcheck)
  | addGroupAttribute name typ isList isVisible isEditable =>
    have hstep := checkedCall_db setup rng out caller "Unauthorized attribute creation"
      (fun schema => checkNewAttribute "user" schema.userAttributes name)
      (fun h => h.addGroupAttribute ⟨.new name, typ, isList, isVisible, isEditable⟩) rfl w
    rcases hstep with hsame | ⟨schema, hschema, hcheck, hdb⟩
    · exact hsame ▸ h
    · refine Eq.mpr (congrArg Tidy hdb) ?_
      rcases addGroupAttribute_db ⟨.new name, typ, isList, isVisible, isEditable⟩ w.db with
        hsame | ⟨t, ht, hdb⟩
      · rw [hsame]
        exact h
      · rw [hdb]
        refine h.addGroup hjson hschema ?_ ?_ ht
        · exact (getByNameOrAlias_asciiLower _ name).trans (hok schema hschema)
        · exact (getByNameOrAlias_asciiLower _ name).trans (checkNewAttribute_ok hcheck)
  | deleteUserAttribute name =>
    have hstep := checkedCall_db setup rng out caller "Unauthorized attribute deletion"
      (fun schema => checkDeletable schema.userAttributes (.new name))
      (fun h => h.deleteUserAttribute (.new name)) rfl w
    rcases hstep with hsame | ⟨schema, -, -, hdb⟩
    · exact hsame ▸ h
    · refine Eq.mpr (congrArg Tidy hdb) ?_
      exact h.delete (fun r hr => List.mem_of_mem_filter hr) fun r hr => hr
  | deleteGroupAttribute name =>
    have hstep := checkedCall_db setup rng out caller "Unauthorized attribute deletion"
      (fun schema => checkDeletable schema.groupAttributes (.new name))
      (fun h => h.deleteGroupAttribute (.new name)) rfl w
    rcases hstep with hsame | ⟨schema, -, -, hdb⟩
    · exact hsame ▸ h
    · refine Eq.mpr (congrArg Tidy hdb) ?_
      exact h.delete (fun r hr => hr) fun r hr => List.mem_of_mem_filter hr
  | _ => exact hok.elim

/-- Starting from the built-in schema, a run that adds attributes only under names that are free in their
own schema keeps every name unambiguous. -/
theorem schemaNames_run (hjson : External.jsonToStrings "[]" = some []) {init : World}
    (hu : ∀ r ∈ init.db.userAttributeSchema.rows, r.isHardcoded = true)
    (hg : ∀ r ∈ init.db.groupAttributeSchema.rows, r.isHardcoded = true)
    {h : List (Lib.Event World (SchemaInput S) Bool)} {w : World}
    (hr : Lib.Run (schemaStep setup) (fun _ w i => AttributeOk w.db i.request) init h w)
    {schema : Schema} (hschema : getSchema w.db = .ok schema) : NamesFit w.db schema := by
  have htidy : Tidy w.db :=
    hr.invariant (P := fun _ w => Tidy w.db) (tidy_of_builtin hu hg) fun _ _ _ ht hok =>
      schemaStep_tidy setup hjson hok ht
  exact htidy.namesFit hschema

end

section Samples

open Plain
open Sql

def schemaInput (request : Mutation) : SchemaInput Opaque.plainSuite :=
  ⟨outside, (), anAdmin, request⟩

def addCustom (name : String) : SchemaInput Opaque.plainSuite :=
  schemaInput (.addUserAttribute name .string false true true)

def afterSchema (inputs : List (SchemaInput Opaque.plainSuite)) : World :=
  inputs.foldl (fun w i => (schemaStep () w i).2) emptyDirectory

theorem badge_unambiguous :
    ∃ schema, getSchema (afterSchema [addCustom "badge"]).db = .ok schema ∧
      NamesFit (afterSchema [addCustom "badge"]).db schema := by
  have hok : (getSchema (afterSchema [addCustom "badge"]).db).isOk = true := by decide +kernel
  obtain ⟨schema, hschema⟩ := Lib.exists_of_isOk hok
  have hfree : ∀ schema, getSchema emptyDirectory.db = .ok schema →
      getByNameOrAlias schema.userAttributes "badge" = none := by
    have hlookup : (getSchema emptyDirectory.db).map
        (fun schema => getByNameOrAlias schema.userAttributes "badge") = .ok none := by decide +kernel
    intro schema hschema
    rw [hschema] at hlookup
    exact Except.ok.inj hlookup
  exact ⟨schema, hschema, schemaNames_run () (by decide) (by decide) (by decide)
    (.snoc (addCustom "badge") .nil hfree) hschema⟩

/-- `sn` is an alias of `lastname`. A custom attribute can have that name, and then is never found. -/
theorem sn_shadowed :
    let w := afterSchema [addCustom "sn"]
    (schemaStep () emptyDirectory (addCustom "sn")).1 = true ∧
      (getSchema w.db).map (fun schema =>
        (schema.userAttributes.map AttributeSchema.name).contains "sn") = .ok true ∧
      (getSchema w.db).map (fun schema =>
        (getByNameOrAlias schema.userAttributes "sn").map AttributeSchema.name) =
          .ok (some "lastname") := by
  decide +kernel

end Samples

end GraphQL
end Klldap
