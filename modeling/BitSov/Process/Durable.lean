import Mathlib.Init

namespace Process

/-!
# A file and what survives of it

A file is replaced by renaming a new one over it and then making the rename
durable.  A write can fail before the rename, which leaves the file as it was,
or after it: the new contents are then read by everybody and may still be
gone after a loss of power.
-/

/-- A file as it is read and as it is sure to survive. -/
structure Durable (α : Type) where
  (current durable : α)

namespace Durable

variable {α : Type}

def synced (contents : α) : Durable α :=
  ⟨contents, contents⟩

/-- Replacing the contents, and whether the writer is told that it worked. -/
inductive Write (before : Durable α) (next : α) : Bool → Durable α → Prop
  | completed : Write before next true (synced next)
  | refused : Write before next false before
  | unsettled : Write before next false ⟨next, before.durable⟩

/-- Making what is read durable. -/
inductive Sync (before : Durable α) : Bool → Durable α → Prop
  | completed : Sync before true (synced before.current)
  | failed : Sync before false before

/-- What is left of the file when its process or the whole machine stops. -/
inductive Crash (before : Durable α) : Durable α → Prop
  | stopped : Crash before before
  | kept : Crash before (synced before.current)
  | lost : Crash before (synced before.durable)

theorem Write.current {before after : Durable α} {next : α} {told : Bool}
    (written : Write before next told after) :
    after.current = before.current ∨ after.current = next := by
  cases written with
  | completed | unsettled => exact .inr rfl
  | refused => exact .inl rfl

/-- A property of everything that may be read later. -/
structure Always (property : α → Prop) (file : Durable α) : Prop where
  current : property file.current
  durable : property file.durable

/-- What survives is at most as far as what is read. -/
def Trails (reaches : α → α → Prop) (file : Durable α) : Prop :=
  reaches file.durable file.current

section

variable {property : α → Prop} {before after : Durable α} {told : Bool}

section

variable (always : Always property before)
include always

theorem Always.write (written : Write before next told after) (new : property next) :
    Always property after := by
  cases written with
  | completed => exact ⟨new, new⟩
  | refused => exact always
  | unsettled => exact ⟨new, always.durable⟩

theorem Always.sync (synced : Sync before told after) : Always property after := by
  cases synced with
  | completed => exact ⟨always.current, always.current⟩
  | failed => exact always

theorem Always.crash (crashed : Crash before after) : Always property after := by
  cases crashed with
  | stopped => exact always
  | kept => exact ⟨always.current, always.current⟩
  | lost => exact ⟨always.durable, always.durable⟩

end

end

section

variable {reaches : α → α → Prop} {before after : Durable α} {told : Bool}

section

variable (trails : Trails reaches before)
include trails

theorem Trails.write (written : Write before next told after) (here : reaches next next)
    (forward : reaches before.durable next) : Trails reaches after := by
  cases written with
  | completed => exact here
  | refused => exact trails
  | unsettled => exact forward

theorem Trails.sync (synced : Sync before told after)
    (here : reaches before.current before.current) : Trails reaches after := by
  cases synced with
  | completed => exact here
  | failed => exact trails

theorem Trails.crash (crashed : Crash before after) (here : ∀ contents, reaches contents contents) :
    Trails reaches after := by
  cases crashed with
  | stopped => exact trails
  | kept | lost => exact here _

theorem Trails.current_crash (crashed : Crash before after)
    (here : reaches before.current before.current) : reaches after.current before.current := by
  cases crashed with
  | stopped | kept => exact here
  | lost => exact trails

end

end

end Durable

end Process
