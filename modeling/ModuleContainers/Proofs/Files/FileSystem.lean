import ModuleContainers.Files.FileSystem

/-!
# Writing in two worlds

Every world writes a file by the same steps. So where the operations of one world are
carried out in another one, a whole write is carried out there too, with the same
result (`writeAtomic_map`). All that is needed is that steps stay steps: doing nothing
is carried over to doing nothing, and one step after another to one after another
(`Carries`).
-/

namespace ModuleContainers.Files.FileSystem

variable {m n : Type → Type} [Monad m] [Monad n]

/-- What is done in one world is done in another one, step by step. -/
structure Carries (f : (α : Type) → m α → n α) : Prop where
  pure : ∀ {α : Type} (a : α), f _ (pure a) = pure a
  bind : ∀ {α β : Type} (step : m α) (next : α → m β),
    f _ (step >>= next) = f _ step >>= fun a => f _ (next a)

/-- The step in the other world; there it fails as it does here. -/
def carry {ε α : Type} (f : (α : Type) → m α → n α) (step : ExceptT ε m α) : ExceptT ε n α :=
  ExceptT.mk (f _ step.run)

namespace Carries

variable {f : (α : Type) → m α → n α} (h : Carries f) {ε α β : Type}
include h

theorem carry_pure (a : α) : carry f (Pure.pure a : ExceptT ε m α) = Pure.pure a := by
  rw [carry, ExceptT.run_pure, h.pure]
  rfl

theorem carry_throw (e : ε) : carry f (throw e : ExceptT ε m α) = throw e := by
  rw [carry, ExceptT.run_throw, h.pure]
  rfl

theorem carry_bind (step : ExceptT ε m α) (next : α → ExceptT ε m β) :
    carry f (step >>= next) = carry f step >>= fun a => carry f (next a) := by
  refine ExceptT.ext ?_
  rw [carry, ExceptT.run_mk, ExceptT.run_bind, ExceptT.run_bind, h.bind]
  refine congrArg _ (funext fun result => ?_)
  cases result with
  | error e => exact h.pure _
  | ok a => rfl

theorem carry_blaming (path : Path) (step : m (Except Fault α)) :
    carry f (blaming path step) = blaming path (f _ step) := by
  refine ExceptT.ext ?_
  rw [carry, ExceptT.run_mk, blaming, blaming, ExceptT.run_mk, ExceptT.run_mk, h.bind]
  exact congrArg _ (funext fun result => h.pure _)

variable [LawfulMonad m] [LawfulMonad n]

theorem carry_tryCatch (step : ExceptT ε m α) (handler : ε → ExceptT ε m α) :
    carry f (tryCatch step handler) = tryCatch (carry f step) fun e => carry f (handler e) := by
  refine ExceptT.ext ?_
  rw [carry, ExceptT.run_mk, ExceptT.run_tryCatch, ExceptT.run_tryCatch, h.bind]
  refine congrArg _ (funext fun result => ?_)
  cases result with
  | error e => rfl
  | ok a => exact h.pure _

theorem carry_lift (step : m α) :
    carry f (ExceptT.lift step : ExceptT ε m α) = ExceptT.lift (f _ step) := by
  refine ExceptT.ext ?_
  rw [carry, ExceptT.run_mk, ExceptT.run_lift, ExceptT.run_lift, map_eq_pure_bind,
    map_eq_pure_bind, h.bind]
  exact congrArg _ (funext fun a => h.pure _)

theorem carry_provide (files : FileSystem m) (directory : Path) :
    carry f (files.provide directory) = (files.map f).provide directory := by
  rw [provide, provide, h.carry_bind, h.carry_lift]
  refine congrArg _ (funext fun leads => ?_)
  cases leads with
  | false => exact h.carry_blaming directory _
  | true => exact h.carry_pure _

theorem carry_withNewFile (files : FileSystem m) (directory : Path)
    (use : Path → ExceptT WriteError m Unit) :
    carry f (files.withNewFile directory use)
      = (files.map f).withNewFile directory fun file => carry f (use file) := by
  rw [withNewFile, withNewFile, h.carry_bind, h.carry_blaming]
  refine congrArg _ (funext fun file => ?_)
  rw [h.carry_tryCatch]
  refine congrArg _ (funext fun error => ?_)
  rw [h.carry_bind, h.carry_lift, h.carry_throw]
  rfl

theorem writeAtomic_map (files : FileSystem m) (path : Path) (text : String) :
    (files.map f).writeAtomic path text = f _ (files.writeAtomic path text) := by
  have hcarry : carry f (ExceptT.mk (files.writeAtomic path text))
      = ExceptT.mk ((files.map f).writeAtomic path text) := by
    rw [writeAtomic, writeAtomic]
    refine (h.carry_bind _ _).trans ?_
    rw [h.carry_provide, h.carry_withNewFile]
    simp only [h.carry_bind, h.carry_blaming]
    rfl
  exact (congrArg ExceptT.run hcarry).symm

end Carries

end ModuleContainers.Files.FileSystem
