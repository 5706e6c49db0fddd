import BlueLagoon.Execution

/-!
# Episodes

An execution opens at most one episode; its messages are those of the user and those of
the assistant, in order.
-/

namespace BlueLagoon

open Interleaving Harness

structure NewEpisode where
  episodeId : Uuid
  traceId : Uuid
  executionId : Uuid
  ingressId : Option Uuid
  internalPrincipalRef : String
  internalConversationRef : String
  triggerKind : String
  triggerSource : String
  status : String
  startedAt : DateTime

structure NewEpisodeMessage where
  episodeMessageId : Uuid
  episodeId : Uuid
  traceId : Uuid
  executionId : Uuid
  messageOrder : Nat
  messageRole : String
  channelKind : ChannelKind
  textBody : Option String
  externalMessageId : Option String

namespace Foreground

/-- The row of a new episode. -/
def episodeRow (episode : NewEpisode) : EpisodeRecord where
  episodeId := episode.episodeId
  traceId := episode.traceId
  executionId := episode.executionId
  ingressId := episode.ingressId
  internalPrincipalRef := episode.internalPrincipalRef
  internalConversationRef := episode.internalConversationRef
  triggerKind := episode.triggerKind
  triggerSource := episode.triggerSource
  status := episode.status
  startedAt := episode.startedAt

/-- `insert_episode`. -/
def insertEpisode (episode : NewEpisode) : Harness Unit :=
  execute "failed to insert episode" fun _ db =>
    match db.episodeViolation (episodeRow episode) with
    | some constraint => .error constraint
    | none => .ok { value := (), db := { db with episodes := db.episodes ++ [episodeRow episode] } }

/-- `UPDATE episodes SET status = .., completed_at = NOW(), .. WHERE episode_id = $1`. -/
def finishEpisode (status : String) (episodeId : Uuid) (outcome summary : String) (now : DateTime)
    (db : Database) : Database :=
  { db with
    episodes :=
      Table.update (fun row => row.episodeId = episodeId)
        (fun row => { row with
          status := status
          completedAt := some now
          outcome := some outcome
          summary := some summary }) db.episodes }

/-- `mark_episode_completed`. -/
def markEpisodeCompleted (episodeId : Uuid) (outcome summary : String) : Harness Unit :=
  execute "failed to mark episode completed" fun now db =>
    .ok { value := (), db := finishEpisode "completed" episodeId outcome summary now db }

/-- `mark_episode_failed`. -/
def markEpisodeFailed (episodeId : Uuid) (outcome summary : String) : Harness Unit :=
  execute "failed to mark episode failed" fun now db =>
    .ok { value := (), db := finishEpisode "failed" episodeId outcome summary now db }

/-- The row of a new message. -/
def episodeMessageRow (message : NewEpisodeMessage) : EpisodeMessageRecord where
  episodeMessageId := message.episodeMessageId
  episodeId := message.episodeId
  traceId := message.traceId
  executionId := message.executionId
  messageOrder := message.messageOrder
  messageRole := message.messageRole
  channelKind := message.channelKind
  textBody := message.textBody
  externalMessageId := message.externalMessageId

/-- `insert_episode_message`. -/
def insertEpisodeMessage (message : NewEpisodeMessage) : Harness Unit :=
  execute "failed to insert episode message" fun _ db =>
    match db.episodeMessageViolation (episodeMessageRow message) with
    | some constraint => .error constraint
    | none =>
      .ok { value := ()
            db := { db with episodeMessages := db.episodeMessages ++ [episodeMessageRow message] } }

/-- `update_episode_message_external_message_id`. -/
def updateEpisodeMessageExternalMessageId (episodeMessageId : Uuid) (externalMessageId : String) :
    Harness Unit :=
  execute "failed to update episode message external message id" fun _ db =>
    .ok { value := ()
          db := { db with
            episodeMessages :=
              Table.update (fun row => row.episodeMessageId = episodeMessageId)
                (fun row => { row with externalMessageId := some externalMessageId })
                db.episodeMessages } }

/-! ### What they touch -/

section Confined

variable {B : Database → Database → List Event → Prop}

theorem insertEpisode_confined (h : ∀ db rows, B db { db with episodes := rows } [])
    (episode : NewEpisode) : (insertEpisode episode).Confined (OnDb B) := by
  refine confined_execute (fun db => h db db.episodes) fun now db effect hbody => ?_
  split at hbody
  · cases hbody
  · obtain rfl := Except.ok.inj hbody
    exact h db _

theorem markEpisodeCompleted_confined (h : ∀ db rows, B db { db with episodes := rows } [])
    (episodeId : Uuid) (outcome summary : String) :
    (markEpisodeCompleted episodeId outcome summary).Confined (OnDb B) := by
  refine confined_execute (fun db => h db db.episodes) fun now db effect hbody => ?_
  obtain rfl := Except.ok.inj hbody
  exact h db _

theorem markEpisodeFailed_confined (h : ∀ db rows, B db { db with episodes := rows } [])
    (episodeId : Uuid) (outcome summary : String) :
    (markEpisodeFailed episodeId outcome summary).Confined (OnDb B) := by
  refine confined_execute (fun db => h db db.episodes) fun now db effect hbody => ?_
  obtain rfl := Except.ok.inj hbody
  exact h db _

theorem insertEpisodeMessage_confined
    (h : ∀ db row, B db { db with episodeMessages := db.episodeMessages ++ [row] } [])
    (refl : ∀ db, B db db []) (message : NewEpisodeMessage) :
    (insertEpisodeMessage message).Confined (OnDb B) := by
  refine confined_execute refl fun now db effect hbody => ?_
  split at hbody
  · cases hbody
  · obtain rfl := Except.ok.inj hbody
    exact h db _

end Confined

end Foreground

end BlueLagoon
