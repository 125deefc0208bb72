import PushNotice.Proofs.Result
import PushNotice.Run

/-!
# PushNotice.Proofs.Run.Faults

**Whose fault a fault is.** Each part of a run has faults of one kind, and the kind decides the exit
code: those of the options, the webhook and the templates are the user's, those of the event are the
event's.
-/

namespace PushNotice

/-! ### The webhook -/

/-- Whether there is no webhook, or none that can be used. -/
def Fault.isAboutWebhook : Fault → Bool
  | .webhookMissing | .webhookMalformed _ | .webhookScheme _ => true
  | _ => false

theorem Fault.kind_of_isAboutWebhook {fault : Fault} (h : fault.isAboutWebhook = true) :
    fault.kind = .user := by
  cases fault with
  | webhookMissing => rfl
  | webhookMalformed _ => rfl
  | webhookScheme _ => rfl
  | _ => simp [isAboutWebhook] at h

theorem Webhook.isAboutWebhook_of_ofText {text : String} {fault : Fault}
    (h : ofText text = .error fault) : fault.isAboutWebhook = true := by
  unfold ofText at h
  split at h
  · exact Except.error.inj h ▸ rfl
  · exact Except.error.inj h ▸ rfl
  · split at h
    · simp at h
    · simp at h
    · exact Except.error.inj h ▸ rfl

theorem Webhook.isAboutWebhook_of_ofOptions {o : Options} {fault : Fault}
    (h : ofOptions o = .error fault) : fault.isAboutWebhook = true := by
  unfold ofOptions at h
  split at h
  · exact Except.error.inj h ▸ rfl
  · exact isAboutWebhook_of_ofText h

namespace Run

variable {files : Files.Source}

/-! ### Options -/

theorem kind_of_validate {o : Options} {fault : Fault} (h : o.validate = .error fault) :
    fault.kind = .user := by
  unfold Options.validate at h
  split at h
  · exact Except.error.inj h ▸ rfl
  · unfold Options.embedTemplate at h
    split at h
    · simp [Except.map] at h
    · split at h
      · simp [Except.map] at h
      · exact Except.error.inj h ▸ rfl

theorem kind_of_readOptions {path : String} {fault : Fault}
    (h : readOptions files path = .error fault) : fault.kind = .user := by
  unfold readOptions at h
  split at h
  · exact Except.error.inj h ▸ rfl
  · unfold Options.ofYaml at h
    rcases bind_eq_error_iff.1 h with malformed | ⟨o, -, checked⟩
    · obtain ⟨flaw, -, rfl⟩ := mapError_eq_error_iff.1 malformed
      rfl
    · rcases bind_eq_error_iff.1 checked with invalid | ⟨_, -, returned⟩
      · exact kind_of_validate invalid
      · simp [pure, Except.pure] at returned

/-! ### Templates -/

theorem kind_of_read {file : Template.File} {fault : Fault} (h : file.read = .error fault) :
    fault.kind = .user := by
  obtain ⟨cause, rfl⟩ | ⟨flaw, rfl⟩ := Template.File.read_eq_error h
  · rfl
  · rfl

theorem kind_of_loadFiles {registry : Template.Registry} {count : Nat}
    {templates : List Template.File} {fault : Fault}
    (h : (registry.loadFiles count templates).result = .error fault) : fault.kind = .user := by
  induction templates generalizing registry count with
  | nil => simp [Template.Registry.loadFiles] at h
  | cons file templates ih =>
    unfold Template.Registry.loadFiles at h
    cases read : file.read with
    | error cause =>
      simp only [read] at h
      exact Except.error.inj h ▸ kind_of_read read
    | ok template =>
      simp only [read] at h
      exact ih h

theorem kind_of_loadDirectory {registry : Template.Registry} {directory : String} {fault : Fault}
    (h : (registry.loadDirectory files directory).result = .error fault) : fault.kind = .user := by
  unfold Template.Registry.loadDirectory at h
  split at h
  · exact Except.error.inj h ▸ rfl
  · exact kind_of_loadFiles h

theorem kind_of_registry {directory : Option String} {fault : Fault}
    (h : (registry files directory).result = .error fault) : fault.kind = .user := by
  cases directory with
  | none => simp [registry] at h
  | some directory =>
    unfold registry at h
    simp only [Outcome.result_bind, Outcome.report, step, Outcome.ofExcept] at h
    cases loaded : (builtinTemplates.loadDirectory files directory).result with
    | error cause =>
      rw [loaded] at h
      exact Except.error.inj h ▸ kind_of_loadDirectory loaded
    | ok count => simp [loaded] at h

/-! ### Events -/

theorem kind_of_event {path : Option String} {fault : Fault}
    (h : event files path = .error fault) : fault.kind = .event := by
  cases path with
  | none => exact Except.error.inj h ▸ rfl
  | some path =>
    unfold event PushEvent.load at h
    dsimp only at h
    split at h
    · exact Except.error.inj h ▸ rfl
    · obtain ⟨flaw, -, rfl⟩ := mapError_eq_error_iff.1 h
      rfl

end Run

end PushNotice
