import Mathlib.Data.String.Basic
import Freight.Deploy.Migrations

/-! Whether the schema is what the record of it says, wherever runs stop, start again or are undone. -/

namespace Freight.Deploy

variable {S : Type} {cfg : MigrationConfig S} {base : S} {db : Database S}

/-- What a database is marked with before anything is applied to it: nothing, unless its tables are there already. -/
def marksOf (cfg : MigrationConfig S) (base : S) : List String :=
  if cfg.tableExists base "orders" && cfg.tableExists base "hubs" then baselineMigrations else []

/-- What a run applies, in order, to a database that nothing has been applied to. -/
def planned (cfg : MigrationConfig S) (base : S) (destructive : Bool) : List String :=
  pending destructive (marksOf cfg base)

/-- The migrations run, one on what the other leaves. -/
def build (cfg : MigrationConfig S) (base : S) (ids : List String) : Option S :=
  ids.foldlM (fun schema id => cfg.up id schema) base

/-- The database is the base with so much applied to it, and the record says so. -/
structure Built (cfg : MigrationConfig S) (base : S) (db : Database S) (built : List String) : Prop where
  ids : db.ids = marksOf cfg base ++ built
  begins : built <+: planned cfg base true
  schema : build cfg base built = some db.schema
  /-- Where nothing was marked, each was recorded later than the one before. -/
  ordered : marksOf cfg base = [] → db.applied.Pairwise fun one other => one.appliedAt < other.appliedAt

/-- Nothing has been applied, and nothing marked. -/
structure Untouched (base : S) (db : Database S) : Prop where
  applied : db.applied = []
  schema : db.schema = base

/-- The schema is what the record says. -/
def Sound (cfg : MigrationConfig S) (base : S) (db : Database S) : Prop :=
  Untouched base db ∨ ∃ built, Built cfg base db built

/-- What a run in progress keeps to itself. -/
def MigrationCall.reserves (call : MigrationCall) : Option Unit := if call.over then none else some ()

/-- No migration is listed twice. -/
theorem planned_nodup (destructive : Bool) (ids : List String) : (pending destructive ids).Nodup := by
  -- The two lists are written out in the script, and what is pending is part of them.
  have listed : (migrations ++ if destructive then [legacyDestructiveMigration] else []).Nodup := by
    cases destructive <;> decide +kernel
  exact listed.filter _

/-- A database nothing was applied to is built of nothing, where nothing is to be marked. -/
theorem Untouched.built (untouched : Untouched base db) (unmarked : marksOf cfg base = []) :
    Built cfg base db [] where
  -- The three parts of the record all start empty.
  ids := by rw [unmarked, Database.ids, untouched.applied]; rfl
  begins := List.nil_prefix
  schema := by rw [untouched.schema]; rfl
  ordered _ := by rw [untouched.applied]; exact .nil

/-- A sound database with a record is built of something. -/
theorem Sound.built (sound : Sound cfg base db) (recorded : db.applied ≠ []) :
    ∃ built, Built cfg base db built :=
  sound.resolve_left fun untouched => recorded untouched.applied

/-- Without a record nothing was applied to it. -/
theorem Sound.untouched (sound : Sound cfg base db) (blank : db.applied = []) : Untouched base db := by
  -- Either nothing has happened, or what was built left its ids behind, of which there are none.
  rcases sound with untouched | ⟨built, made⟩
  · exact untouched
  · have none := made.ids
    rw [Database.ids, blank] at none
    obtain ⟨-, rfl⟩ := List.append_eq_nil_iff.mp none.symm
    exact ⟨blank, (Option.some.inj made.schema).symm⟩

instance : Std.Total laterFirst := ⟨fun one other => by
  unfold laterFirst
  rcases Nat.lt_trichotomy one.appliedAt other.appliedAt with earlier | same | later
  · exact .inr (.inl earlier)
  · rcases le_total one.id other.id with least | most
    · exact .inr (.inr ⟨same, least⟩)
    · exact .inl (.inr ⟨same.symm, most⟩)
  · exact .inl (.inl later)⟩

instance : IsTrans Applied laterFirst := ⟨fun one two three first second => by
  rcases first with earlier | ⟨same, least⟩ <;> rcases second with later | ⟨same', most⟩
  · exact .inl (Nat.lt_trans later earlier)
  · exact .inl (by omega)
  · exact .inl (by omega)
  · exact .inr ⟨same'.trans same, le_trans most least⟩⟩

end Freight.Deploy
