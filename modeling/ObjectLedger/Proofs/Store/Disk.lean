/-
**Records in files are the contents of a store.**

* `Disk.Sound`: the directory is tidy and no record is pending twice.
* The instances of `LawfulBackend` for `Disk` and `Medium`: a commit moves the pending records into
  files, and what could not be written is still pending.
* `Medium.blank`: an empty place for records, in memory or in a directory.
-/
import ObjectLedger.Proofs.Store.Contents
import ObjectLedger.Proofs.Store.Shelf
import ObjectLedger.Store.Medium

namespace ObjectLedger

namespace Disk

/-! ### The backend -/

/-- The directory is tidy and no record is pending twice. -/
structure Sound (disk : Disk) : Prop where
  tidy : disk.directory.Tidy
  responses : disk.pending.responses.Proper
  histories : disk.pending.histories.Proper

theorem Sound.response_eq {disk : Disk} (sound : disk.Sound) (reference : TransactionRef) :
    Backend.response disk .uncommitted reference =
      overlay .uncommitted (disk.pending.responses.get? reference)
        (recordIn Codec.response "response"
          (disk.directory.files.get? (Layout.response reference))) := by
  show overlay _ _ _ = _
  rw [readRecord?_eq sound.tidy (Layout.isRecord_response reference).place]

theorem Sound.history_eq {disk : Disk} (sound : disk.Sound) (object : ObjectRef) :
    Backend.history disk .uncommitted object =
      (overlay .uncommitted (disk.pending.histories.get? object)
        (recordIn Codec.history "history"
          (disk.directory.files.get? (Layout.history object)))).map (Option.getD · []) := by
  show (overlay _ _ _ >>= fun history => pure (history.getD [])) = _
  rw [readRecord?_eq sound.tidy (Layout.isRecord_history object).place]
  cases overlay .uncommitted (disk.pending.histories.get? object) _ <;> rfl

/-- The disk is sound, and its uncommitted records are the contents. -/
structure Holds (disk : Disk) (contents : ObjectLedger.Contents) : Prop where
  sound : disk.Sound
  response_eq : ∀ reference,
    Backend.response disk .uncommitted reference = .ok (contents.responses reference)
  history_eq : ∀ object,
    Backend.history disk .uncommitted object = .ok (contents.histories object)

/-- A commit changes no read of uncommitted records, whether it succeeds or not. -/
theorem commit_spec {disk : Disk} (sound : disk.Sound) :
    disk.commit.2.Sound ∧
      (∀ reference, Backend.response disk.commit.2 .uncommitted reference =
        Backend.response disk .uncommitted reference) ∧
      ∀ object, Backend.history disk.commit.2 .uncommitted object =
        Backend.history disk .uncommitted object := by
  have inOrder := inOrder_filesOf disk.pending
  obtain ⟨tidy, -, -⟩ := writeFiles_spec disk.root sound.tidy inOrder.isRecord
  have responses := fun reference => RecordKind.overlay_writeFiles disk.root sound.tidy
    inOrder.isRecord .response reference (inOrder.mem_place_iff .response sound.responses reference)
  have histories := fun object => RecordKind.overlay_writeFiles disk.root sound.tidy
    inOrder.isRecord .history object (inOrder.mem_place_iff .history sound.histories object)
  unfold commit
  generalize writeFiles disk.root disk.directory (filesOf disk.pending) = result at *
  obtain ⟨_ | ⟨⟨⟩⟩, written⟩ := result
  · have stays : Sound { disk with directory := written } :=
      ⟨tidy, sound.responses, sound.histories⟩
    refine ⟨stays, fun reference => ?_, fun object => ?_⟩
    · rw [stays.response_eq, sound.response_eq]
      exact (responses reference).1
    · rw [stays.history_eq, sound.history_eq]
      exact congrArg _ (histories object).1
  · have stays : Sound { disk with
        directory := written
        pending := {}
        lastCommitted := latest disk.lastCommitted disk.pending.lastReference } :=
      ⟨tidy, Table.proper_empty, Table.proper_empty⟩
    refine ⟨stays, fun reference => ?_, fun object => ?_⟩
    · rw [stays.response_eq, sound.response_eq]
      exact (responses reference).2 rfl
    · rw [stays.history_eq, sound.history_eq]
      exact congrArg _ ((histories object).2 rfl)

instance : LawfulBackend Disk where
  Holds := Holds
  response_eq holds := holds.response_eq
  history_eq holds := holds.history_eq
  write_write _ _ _ := rfl
  holds_putTransaction := by
    intro disk contents holds reference request response
    obtain ⟨⟨tidy, responses, histories⟩, response_eq, history_eq⟩ := holds
    refine ⟨⟨tidy, responses.insert reference response, histories⟩, fun other => ?_, history_eq⟩
    show overlay .uncommitted ((disk.pending.responses.insert reference response).get? other) _ = _
    by_cases same : other = reference
    · subst same
      rw [Table.get?_insert_self, Contents.putResponse_responses_self]
      rfl
    · rw [Table.get?_insert_of_ne _ _ same, Contents.putResponse_responses_of_ne _ _ same]
      exact response_eq other
  holds_putHistory := by
    intro disk contents holds object history
    obtain ⟨⟨tidy, responses, histories⟩, response_eq, history_eq⟩ := holds
    refine ⟨⟨tidy, responses, histories.insert object history⟩, response_eq, fun other => ?_⟩
    show (overlay .uncommitted ((disk.pending.histories.insert object history).get? other) _ >>=
      fun history => pure (history.getD [])) = _
    by_cases same : other = object
    · subst same
      rw [Table.get?_insert_self, Contents.putHistory_histories_self]
      rfl
    · rw [Table.get?_insert_of_ne _ _ same, Contents.putHistory_histories_of_ne _ _ same]
      exact history_eq other
  holds_putError := by
    rintro disk contents ⟨⟨tidy, responses, histories⟩, response_eq, history_eq⟩ _ _ _
    exact ⟨⟨tidy, responses, histories⟩, response_eq, history_eq⟩
  holds_putManifest := by
    rintro disk contents ⟨⟨tidy, responses, histories⟩, response_eq, history_eq⟩ _
    exact ⟨⟨tidy, responses, histories⟩, response_eq, history_eq⟩
  holds_commit := by
    intro disk contents holds
    obtain ⟨sound, responses, histories⟩ := commit_spec holds.sound
    exact ⟨sound, fun reference => (responses reference).trans (holds.response_eq reference),
      fun object => (histories object).trans (holds.history_eq object)⟩

theorem holds_empty (root : String) :
    LawfulBackend.Holds { root, directory := {} : Disk } Contents.empty where
  sound := ⟨Directory.tidy_empty, Table.proper_empty, Table.proper_empty⟩
  response_eq _ := rfl
  history_eq _ := rfl

end Disk

/-! ### Either place -/

namespace Medium

instance : LawfulBackend Medium where
  Holds
    | .memory store, contents => LawfulBackend.Holds store contents
    | .disk store, contents => LawfulBackend.Holds store contents
  response_eq := by
    rintro (store | store) contents holds <;>
      exact @LawfulBackend.response_eq _ _ _ store _ holds
  history_eq := by
    rintro (store | store) contents holds <;>
      exact @LawfulBackend.history_eq _ _ _ store _ holds
  write_write := by
    rintro (store | store) first second <;> rfl
  holds_putTransaction := by
    rintro (store | store) contents holds <;>
      exact @LawfulBackend.holds_putTransaction _ _ _ store _ holds
  holds_putHistory := by
    rintro (store | store) contents holds <;>
      exact @LawfulBackend.holds_putHistory _ _ _ store _ holds
  holds_putError := by
    rintro (store | store) contents holds <;>
      exact @LawfulBackend.holds_putError _ _ _ store _ holds
  holds_putManifest := by
    rintro (store | store) contents holds <;>
      exact @LawfulBackend.holds_putManifest _ _ _ store _ holds
  holds_commit := by
    rintro (store | store) contents holds <;>
      exact @LawfulBackend.holds_commit _ _ _ store _ holds

/-- An empty place for records: the directory of a root, or memory without one. -/
def blank : Option String → Medium
  | none => .memory {}
  | some root => .disk { root, directory := {} }

theorem holds_blank (root : Option String) :
    LawfulBackend.Holds (blank root) Contents.empty := by
  cases root with
  | none => exact Memory.holds_empty
  | some root => exact Disk.holds_empty root

end Medium

end ObjectLedger
