import Opsia.KeyedMerge
import Opsia.Orchestrator.Contexts

/-!
# What a failed candidate leaves of its Deployment

The driver patches a Deployment to schedule a candidate, and patches it again to undo that.  Patches are merged as the
cluster merges them: containers and variables by name, in their place or after the others, and an annotation that is
null is removed.  Both patches set the same fields, so that the second leaves nothing of the first
(`PodTemplate.patched_patched`); but the driver remembers the image, the annotations and one of the variables only, and
the template comes back just when it had the other variables, as the patches set them (`PodTemplate.Restorable`).  The
templates along a log are those that its exchanges make of them (`TakesAll`).
-/

namespace Opsia

open Json
open Canary (imageDigestPattern)

/-! ### Pod templates -/

/-- An environment variable of a container; what a patch of the driver does not name is in `others`, here and below. -/
structure TemplateEnvVar where
  name : String
  value : Option String
  others : Fields JsValue

structure TemplateContainer where
  name : String
  image : Option String
  env : List TemplateEnvVar
  others : Fields JsValue

structure PodTemplate where
  annotations : String → Option String
  containers : List TemplateContainer
  others : Fields JsValue

def envMerge : KeyedMerge TemplateEnvVar (String × String) String where
  key := TemplateEnvVar.name
  patchKey := Prod.fst
  patch := fun pair entry => { entry with value := some pair.2 }
  create := fun pair => { name := pair.1, value := some pair.2, others := [] }
  key_patch := fun _ _ => rfl
  key_create := fun _ => rfl

structure ContainerPatch where
  name : String
  image : String
  env : List (String × String)

def containerMerge : KeyedMerge TemplateContainer ContainerPatch String where
  key := TemplateContainer.name
  patchKey := ContainerPatch.name
  patch := fun p container => { container with image := some p.image, env := envMerge.merge p.env container.env }
  create := fun p => { name := p.name, image := some p.image, env := envMerge.merge p.env [], others := [] }
  key_patch := fun _ _ => rfl
  key_create := fun _ => rfl

/-- The game server in the body of `patchDeployment`. -/
def gameServerPatch (image revision : String) : ContainerPatch where
  name := "game-server"
  image := image
  env := [("OPSIA_ROLE", "auto"), ("OPSIA_GAME_BUILD_REVISION", revision), ("REDIS_URL", "redis://cache:6379/0")]

namespace PodTemplate

/-- The body of `patchDeployment`, merged into the template: an annotation that is null is removed. -/
def patched (template : PodTemplate) (image revision : String) (annotations : List (String × Option String)) :
    PodTemplate :=
  { template with
    annotations := fun key => (annotations.lookup key).getD (template.annotations key)
    containers := containerMerge.merge [gameServerPatch image revision] template.containers }

/-- The value of a variable of the game server. -/
def gameEnv (template : PodTemplate) (name : String) : Option String :=
  (template.containers.find? fun container => decide (container.name = "game-server")).bind fun container =>
    (container.env.find? fun entry => decide (entry.name = name)).bind (·.value)

/-- Of the variables that a patch sets, the game server has those that are always the same, as they always are, and a
build revision. -/
def Restorable (template : PodTemplate) : Prop :=
  template.gameEnv "OPSIA_ROLE" = some "auto" ∧
    template.gameEnv "REDIS_URL" = some "redis://cache:6379/0" ∧
    (template.gameEnv "OPSIA_GAME_BUILD_REVISION").isSome = true

instance (template : PodTemplate) : Decidable template.Restorable := inferInstanceAs (Decidable (_ ∧ _ ∧ _))

/-- What the cluster answers about the template. -/
structure Shows (template : PodTemplate) (deployment : KubernetesDeployment) : Prop where
  annotations : ∀ key, deployment.annotations.lookup key = template.annotations key
  containers : deployment.containers = template.containers.map fun container =>
    { name := some container.name, image := container.image
      env := container.env.map fun entry => (some entry.name, entry.value) }


/-- The image of the game server. -/
def gameImage (template : PodTemplate) : Option String :=
  presentText ((template.containers.find? fun container => decide (container.name = "game-server")).bind (·.image))

/-! ### Merging the patches of the driver -/

variable {template : PodTemplate} {image revision : String} {annotations : List (String × Option String)}

private theorem gameServerPatch_nodup (image revision : String) :
    ((gameServerPatch image revision).env.map envMerge.patchKey).Nodup := by
  change ["OPSIA_ROLE", "OPSIA_GAME_BUILD_REVISION", "REDIS_URL"].Nodup
  decide

theorem env_merge_eq_self_iff (image revision : String) (env : List TemplateEnvVar) :
    envMerge.merge (gameServerPatch image revision).env env = env ↔
      (env.find? fun entry => decide (entry.name = "OPSIA_ROLE")).bind (·.value) = some "auto" ∧
        (env.find? fun entry => decide (entry.name = "OPSIA_GAME_BUILD_REVISION")).bind (·.value) = some revision ∧
        (env.find? fun entry => decide (entry.name = "REDIS_URL")).bind (·.value) = some "redis://cache:6379/0" := by
  have hpatch : ∀ (pair : String × String) (entry : TemplateEnvVar),
      envMerge.patch pair entry = entry ↔ entry.value = some pair.2 := by
    intro pair entry
    constructor
    · intro h
      rw [← h]
      rfl
    · intro h
      cases entry
      cases h
      rfl
  have hentry : ∀ pair : String × String, (∃ entry, (env.find? fun entry => decide (entry.name = pair.1)) = some entry ∧
      envMerge.patch pair entry = entry) ↔
        (env.find? fun entry => decide (entry.name = pair.1)).bind (·.value) = some pair.2 := by
    intro pair
    rw [Option.bind_eq_some_iff]
    exact exists_congr fun entry => and_congr_right fun _ => hpatch pair entry
  have hall : envMerge.merge (gameServerPatch image revision).env env = env ↔ ∀ pair ∈ (gameServerPatch image revision).env,
      (env.find? fun entry => decide (entry.name = pair.1)).bind (·.value) = some pair.2 :=
    (KeyedMerge.merge_eq_self_iff (gameServerPatch_nodup image revision) env).trans
      (forall₂_congr fun pair _ => hentry pair)
  rw [hall]
  unfold gameServerPatch
  simp only [List.forall_mem_cons, List.not_mem_nil, false_imp_iff, implies_true, and_true]

/-- A patch of all that an earlier one has patched leaves nothing of that one. -/
theorem patched_patched {image' revision' : String} {annotations' : List (String × Option String)}
    (hkeys : ∀ key, annotations'.lookup key = none → annotations.lookup key = none) :
    (template.patched image revision annotations).patched image' revision' annotations' =
      template.patched image' revision' annotations' := by
  have henv : ∀ env, envMerge.merge (gameServerPatch image' revision').env
      (envMerge.merge (gameServerPatch image revision).env env) =
        envMerge.merge (gameServerPatch image' revision').env env :=
    KeyedMerge.merge_merge rfl (gameServerPatch_nodup image' revision')
      (fun _ _ _ _ _ _ => rfl) fun p _ q _ hkey => by
        change ({ name := p.1, value := some q.2, others := [] } : TemplateEnvVar) = _
        rw [show p.1 = q.1 from hkey]
        rfl
  have hpatch : ∀ container : TemplateContainer, containerMerge.patch (gameServerPatch image' revision')
      (containerMerge.patch (gameServerPatch image revision) container) =
        containerMerge.patch (gameServerPatch image' revision') container :=
    fun container => congrArg (fun env => { container with image := some image', env := env }) (henv container.env)
  have hcreate : containerMerge.patch (gameServerPatch image' revision')
      (containerMerge.create (gameServerPatch image revision)) =
        containerMerge.create (gameServerPatch image' revision') :=
    congrArg (fun env => ({ name := "game-server", image := some image', env := env, others := [] } : TemplateContainer))
      (henv [])
  have hcontainers : containerMerge.merge [gameServerPatch image' revision']
      (containerMerge.merge [gameServerPatch image revision] template.containers) =
        containerMerge.merge [gameServerPatch image' revision'] template.containers := by
    have hnodup : ([gameServerPatch image' revision'].map containerMerge.patchKey).Nodup := List.nodup_singleton _
    have hkeys : [gameServerPatch image revision].map containerMerge.patchKey =
        [gameServerPatch image' revision'].map containerMerge.patchKey := rfl
    refine KeyedMerge.merge_merge hkeys hnodup ?_ ?_ _
    · intro p hp q hq container _
      rw [List.mem_singleton.1 hp, List.mem_singleton.1 hq, hpatch]
    · intro p hp q hq _
      rw [List.mem_singleton.1 hp, List.mem_singleton.1 hq, hcreate]
  have hannotations : (fun key => (annotations'.lookup key).getD ((annotations.lookup key).getD
      (template.annotations key))) = fun key => (annotations'.lookup key).getD (template.annotations key) := by
    funext key
    cases h : annotations'.lookup key with
    | none => rw [hkeys key h, Option.getD_none, Option.getD_none]
    | some value => rfl
  unfold patched
  dsimp only
  rw [hcontainers, hannotations]

theorem patched_eq_self_iff {container : TemplateContainer}
    (hcontainer : (template.containers.find? fun container => decide (container.name = "game-server")) = some container)
    (himage : container.image = some image)
    (hannotations : ∀ key, (annotations.lookup key).getD (template.annotations key) = template.annotations key) :
    template.patched image revision annotations = template ↔
      template.gameEnv "OPSIA_ROLE" = some "auto" ∧
        template.gameEnv "OPSIA_GAME_BUILD_REVISION" = some revision ∧
        template.gameEnv "REDIS_URL" = some "redis://cache:6379/0" := by
  have hfields : template.patched image revision annotations = template ↔
      containerMerge.merge [gameServerPatch image revision] template.containers = template.containers := by
    constructor
    · intro h
      exact congrArg PodTemplate.containers h
    · intro h
      unfold patched
      rw [h, funext hannotations]
  have hpatch : containerMerge.patch (gameServerPatch image revision) container = container ↔
      envMerge.merge (gameServerPatch image revision).env container.env = container.env := by
    constructor
    · intro h
      exact congrArg TemplateContainer.env h
    · intro h
      change { container with image := some image, env := envMerge.merge (gameServerPatch image revision).env _ } = _
      rw [h, ← himage]
  have hnodup : ([gameServerPatch image revision].map containerMerge.patchKey).Nodup := List.nodup_singleton _
  rw [hfields, KeyedMerge.merge_eq_self_iff hnodup, List.forall_mem_singleton]
  unfold gameEnv
  rw [hcontainer, Option.bind_some, Option.bind_some, Option.bind_some, ← env_merge_eq_self_iff image, ← hpatch]
  constructor
  · rintro ⟨found, hfound, hsame⟩
    obtain rfl : container = found := Option.some.inj (hcontainer.symm.trans hfound)
    exact hsame
  · exact fun h => ⟨container, hcontainer, h⟩

/-! ### What the context remembers of the template -/

/-- The context has kept of the template what the driver reads of it. -/
structure RememberedBy (template : PodTemplate) (context : DriverContext) : Prop where
  image : ∃ container, (template.containers.find? fun container => decide (container.name = "game-server")) =
    some container ∧ container.image = some context.originalImage
  revision : context.originalBuildRevision =
    (template.gameEnv "OPSIA_GAME_BUILD_REVISION").getD (imageRevision context.originalImage)
  annotations : context.originalTemplateAnnotations = handoffAnnotations.map fun key => (key, template.annotations key)

variable {context : DriverContext}

private theorem lookup_map (keys : List String) (f : String → Option String) (key : String) :
    (keys.map fun key => (key, f key)).lookup key = if key ∈ keys then some (f key) else none := by
  induction keys with
  | nil => rfl
  | cons k keys ih =>
    rw [List.map_cons, List.lookup_cons, ih]
    by_cases hk : key = k
    · subst hk
      simp
    · rw [beq_eq_false_iff_ne.2 hk]
      simp [hk]

namespace RememberedBy

/-- The template as `restoreDeployment` patches it. -/
theorem restored_eq_self_iff (h : template.RememberedBy context) :
    template.patched context.originalImage context.originalBuildRevision context.originalTemplateAnnotations =
      template ↔ template.Restorable := by
  obtain ⟨container, hcontainer, himage⟩ := h.image
  have hannotations : ∀ key, (context.originalTemplateAnnotations.lookup key).getD (template.annotations key) =
      template.annotations key := by
    intro key
    rw [h.annotations, lookup_map]
    split <;> rfl
  rw [patched_eq_self_iff hcontainer himage hannotations]
  unfold Restorable
  rw [h.revision]
  constructor
  · rintro ⟨hrole, hrevision, hredis⟩
    exact ⟨hrole, hredis, by rw [hrevision]; rfl⟩
  · rintro ⟨hrole, hredis, hrevision⟩
    obtain ⟨revision, hrevision⟩ := Option.isSome_iff_exists.1 hrevision
    rw [hrevision]
    exact ⟨hrole, rfl, hredis⟩

/-- The restoring undoes the patch of the scheduling. -/
theorem restored_patched (h : template.RememberedBy context) (image revision operation wanted : String) :
    (template.patched image revision [("opsia.dev/handoff-operation", some operation),
      ("opsia.dev/handoff-revision", some wanted)]).patched context.originalImage context.originalBuildRevision
        context.originalTemplateAnnotations =
      template.patched context.originalImage context.originalBuildRevision context.originalTemplateAnnotations := by
  refine patched_patched fun key hnone => ?_
  rw [h.annotations, lookup_map] at hnone
  split at hnone
  · cases hnone
  · rename_i hkey
    unfold handoffAnnotations at hkey
    rw [List.mem_cons, List.mem_cons, not_or, not_or] at hkey
    rw [List.lookup_cons, beq_eq_false_iff_ne.2 hkey.1, List.lookup_cons, beq_eq_false_iff_ne.2 hkey.2.1]
    rfl

end RememberedBy

end PodTemplate

/-! ### Templates along a log -/

/-- What an exchange makes of the templates of the Deployments, given by name: a patch is merged if it succeeds, and may
have been if it fails; a read shows the template. -/
inductive Takes : (Exchange fun call : DriverCall => Except HandoffError call.Result) → (String → PodTemplate) →
    (String → PodTemplate) → Prop
  | patched (name image revision : String) (annotations : List (String × Option String))
      (templates : String → PodTemplate) :
      Takes ⟨.patchDeployment name image revision annotations, .ok ()⟩ templates
        (Function.update templates name ((templates name).patched image revision annotations))
  | merged (name image revision : String) (annotations : List (String × Option String)) (error : HandoffError)
      (templates : String → PodTemplate) :
      Takes ⟨.patchDeployment name image revision annotations, .error error⟩ templates
        (Function.update templates name ((templates name).patched image revision annotations))
  | lost (name image revision : String) (annotations : List (String × Option String)) (error : HandoffError)
      (templates : String → PodTemplate) :
      Takes ⟨.patchDeployment name image revision annotations, .error error⟩ templates templates
  | read (name : String) (deployment : KubernetesDeployment) (templates : String → PodTemplate)
      (shows : (templates name).Shows deployment) : Takes ⟨.readDeployment name, .ok deployment⟩ templates templates
  | unread (name : String) (error : HandoffError) (templates : String → PodTemplate) :
      Takes ⟨.readDeployment name, .error error⟩ templates templates
  | pods (roomId : String) (answer : Except HandoffError (List KubernetesPod)) (templates : String → PodTemplate) :
      Takes ⟨.listRoomPods roomId, answer⟩ templates templates
  | roles (active candidate : RoomResourceRef) (roomEpoch : Nat) (answer : Except HandoffError Unit)
      (templates : String → PodTemplate) : Takes ⟨.patchPodRoles active candidate roomEpoch, answer⟩ templates templates
  | deleted (name uid : String) (answer : Except HandoffError Unit) (templates : String → PodTemplate) :
      Takes ⟨.deletePod name uid, answer⟩ templates templates
  | behind (call : HandoffCall) (answer : Except HandoffError call.Result) (templates : String → PodTemplate) :
      Takes ⟨.behind call, answer⟩ templates templates

/-- The templates before and after the exchanges of a log. -/
def TakesAll : DriverLog → (String → PodTemplate) → (String → PodTemplate) → Prop
  | [], before, after => after = before
  | e :: log, before, after => ∃ between, Takes e before between ∧ TakesAll log between after

/-- The requests that neither read nor patch a Deployment nor delete a pod. -/
private def LeavesAlone : DriverCall → Prop
  | .readDeployment _ | .patchDeployment .. | .deletePod .. => False
  | _ => True

variable {before after : String → PodTemplate}

private theorem Takes.eq_of_leavesAlone {e : Exchange fun call : DriverCall => Except HandoffError call.Result}
    (h : Takes e before after) (halone : LeavesAlone e.call) : after = before := by
  cases h with
  | patched | merged | lost | read | unread | deleted => cases halone
  | pods | roles | behind => rfl

private theorem takesAll_append {log log' : DriverLog} :
    TakesAll (log ++ log') before after ↔ ∃ between, TakesAll log before between ∧ TakesAll log' between after := by
  induction log generalizing before with
  | nil =>
    constructor
    · exact fun h => ⟨before, rfl, h⟩
    · rintro ⟨between, rfl, h⟩
      exact h
  | cons e log ih =>
    constructor
    · rintro ⟨first, hfirst, hrest⟩
      obtain ⟨between, hlog, hlog'⟩ := ih.1 hrest
      exact ⟨between, ⟨first, hfirst, hlog⟩, hlog'⟩
    · rintro ⟨between, ⟨first, hfirst, hlog⟩, hlog'⟩
      exact ⟨first, hfirst, ih.2 ⟨between, hlog, hlog'⟩⟩

private theorem TakesAll.eq_of_leavesAlone {log : DriverLog} (h : TakesAll log before after)
    (halone : ∀ e ∈ log, LeavesAlone e.call) : after = before := by
  induction log generalizing before with
  | nil => exact h
  | cons e log ih =>
    obtain ⟨between, hfirst, hrest⟩ := h
    obtain rfl := hfirst.eq_of_leavesAlone (halone e List.mem_cons_self)
    exact ih hrest fun e' he => halone e' (List.mem_cons_of_mem e he)

/-! ### Requests that fail to clean up -/

/-- The requests that undo a scheduling: those that patch the Deployment's annotations back, and the deletions. -/
def restores : DriverCall → Bool
  | .patchDeployment _ _ _ annotations => decide (annotations.map Prod.fst = handoffAnnotations)
  | .deletePod .. => true
  | _ => false

/-- Every request that undoes the scheduling succeeds. -/
def CleanupSucceeds (log : DriverLog) : Prop :=
  ∀ e ∈ log, restores e.call = true → ∃ result, e.answer = .ok result

/-! ### Observed pods -/

namespace KubernetesRoomHandoffDriver

variable (driver : KubernetesRoomHandoffDriver)

def deploymentName (roomId : String) : String :=
  driver.deploymentPrefix ++ "-" ++ toString ((roomOrdinal? roomId).getD 0)

/-- The image of a revision, if it is one. -/
def imageOf? (revision : String) : Option String :=
  if imageDigestPattern revision then some (driver.gameImageRepository ++ "@" ++ revision)
  else if imageTagPattern revision then some (driver.gameImageRepository ++ ":" ++ revision)
  else none

/-- The scheduling has found the pod, running, as the newest one that its operation has made. -/
def Observes (target : RoomHandoffTarget) (operationId : String) (log : DriverLog) (pod : KubernetesPod) : Prop :=
  ∃ (context : DriverContext) (roomId : String) (pods : List KubernetesPod),
    context.target = target ∧ context.operationId = operationId ∧ ⟨.listRoomPods roomId, .ok pods⟩ ∈ log ∧
      driver.newestPod context pods = some pod ∧ (running? pod).isSome = true

/-- The pod runs the image that was asked for, of the revision and the digest that were asked for. -/
def Accepts (target : RoomHandoffTarget) (pod : KubernetesPod) : Prop :=
  let wanted := target.imageDigest.getD target.revision
  let container := pod.containers.find? fun entry => decide (entry.name = some "game-server")
  let status := pod.containerStatuses.find? fun entry => decide (entry.name = some "game-server")
  ∃ image, presentText (container.bind (·.image)) = some image ∧ driver.imageOf? wanted = some image ∧
    imageRevision image = wanted ∧
    ((presentText target.imageDigest).all fun digest => (status.bind (·.imageID)).bind runtimeImageDigest = some digest) =
      true

/-- A call that ends before it patches the Deployment: its arguments are not a room of the driver, an operation and a
revision, the room has a context already, the Deployment is not read, or it has no game server with an image. -/
def GivesUp (target : RoomHandoffTarget) (operationId : String) (contexts : DriverContexts)
    (templates : String → PodTemplate) (log : DriverLog) : Prop :=
  (roomOrdinal? target.roomId).filter (· < driver.roomCount) = none ∨ operationId = "" ∨
    (contexts.byRoom target.roomId).isSome = true ∨
    driver.imageOf? (target.imageDigest.getD target.revision) = none ∨
    (∀ name deployment, ⟨.readDeployment name, .ok deployment⟩ ∉ log) ∨
    (templates (driver.deploymentName target.roomId)).gameImage = none

/-! ### Scheduling -/

variable {driver} {target : RoomHandoffTarget} {operationId : String} {log : DriverLog} {pod : KubernetesPod}

private theorem observes_append {e : Exchange fun call : DriverCall => Except HandoffError call.Result} :
    driver.Observes target operationId (log ++ [e]) pod ↔
      driver.Observes target operationId log pod ∨ driver.Observes target operationId [e] pod := by
  unfold Observes
  constructor
  · rintro ⟨context, roomId, pods, htarget, hoperation, hmem, hnewest⟩
    rcases List.mem_append.1 hmem with hmem | hmem
    · exact .inl ⟨context, roomId, pods, htarget, hoperation, hmem, hnewest⟩
    · exact .inr ⟨context, roomId, pods, htarget, hoperation, hmem, hnewest⟩
  · rintro (⟨context, roomId, pods, htarget, hoperation, hmem, hnewest⟩ |
      ⟨context, roomId, pods, htarget, hoperation, hmem, hnewest⟩)
    · exact ⟨context, roomId, pods, htarget, hoperation, List.mem_append_left _ hmem, hnewest⟩
    · exact ⟨context, roomId, pods, htarget, hoperation, List.mem_append_right _ hmem, hnewest⟩

/-- Only a listing of the pods observes one. -/
private theorem not_observes_single {call : DriverCall} {answer : Except HandoffError call.Result}
    (h : ∀ roomId, call ≠ .listRoomPods roomId) : ¬driver.Observes target operationId [⟨call, answer⟩] pod := by
  rintro ⟨context, roomId, pods, -, -, hmem, -⟩
  rw [List.mem_singleton] at hmem
  cases hmem
  exact h roomId rfl

/-- A listing observes the newest pod, if it runs. -/
private theorem observes_listing {context : DriverContext} {roomId : String} {pods : List KubernetesPod} :
    driver.Observes context.target context.operationId [⟨.listRoomPods roomId, .ok pods⟩] pod ↔
      driver.newestPod context pods = some pod ∧ (running? pod).isSome = true := by
  constructor
  · rintro ⟨context', roomId', pods', htarget, hoperation, hmem, hnewest, hrunning⟩
    rw [List.mem_singleton] at hmem
    cases hmem
    refine ⟨?_, hrunning⟩
    rw [← hnewest]
    unfold newestPod
    rw [htarget, hoperation]
  · exact fun h => ⟨context, roomId, pods, rfl, rfl, List.mem_singleton_self _, h⟩

/-- Nothing is asked of the requests. -/
private abbrev Any : DriverLog → DriverCall → Prop := fun _ _ => True

/-- The patch of the scheduling. -/
private abbrev scheduling (context : DriverContext) : DriverCall :=
  .patchDeployment context.deploymentName context.desiredImage context.target.revision
    [("opsia.dev/handoff-operation", some context.operationId),
     ("opsia.dev/handoff-revision", some context.target.revision)]

/-- The patch of the restoring. -/
private abbrev restoring (context : DriverContext) : DriverCall :=
  .patchDeployment context.deploymentName context.originalImage context.originalBuildRevision
    context.originalTemplateAnnotations

/-- The log has grown by the patch of the scheduling and by requests that leave the Deployments alone. -/
private def Tried (context : DriverContext) (start log : DriverLog) : Prop :=
  ∃ answer more, log = start ++ ⟨scheduling context, answer⟩ :: more ∧ ∀ e ∈ more, LeavesAlone e.call

/-- The try block has failed: either no pod that it has observed is acceptable, or the one that it has observed is, and
it is the candidate by now. -/
private def Failing (driver : KubernetesRoomHandoffDriver) (context : DriverContext) (contexts : DriverContexts)
    (log : DriverLog) (contexts' : DriverContexts) : Prop :=
  (contexts' = contexts ∧
    ∀ pod, driver.Observes context.target context.operationId log pod → ¬driver.Accepts context.target pod) ∨
  ∃ candidate, contexts' = contexts.assign context candidate ∧
    ∀ pod, driver.Observes context.target context.operationId log pod → driver.Accepts context.target pod ∧
      ∃ podIP, running? pod = some (candidate.name, candidate.uid, podIP)

/-- The pod that the scheduling has observed is the candidate. -/
private def Holds (driver : KubernetesRoomHandoffDriver) (context : DriverContext) (contexts : DriverContexts)
    (log : DriverLog) (contexts' : DriverContexts) (candidate : RoomCandidate) : Prop :=
  contexts' = contexts.assign context candidate ∧
    ∀ pod, driver.Observes context.target context.operationId log pod →
      ∃ podIP, running? pod = some (candidate.name, candidate.uid, podIP)

variable {context : DriverContext} {contexts : DriverContexts} {start : DriverLog}

private theorem Tried.append {call : DriverCall} (h : Tried context start log) (halone : LeavesAlone call)
    (answer : Except HandoffError call.Result) : Tried context start (log ++ [⟨call, answer⟩]) := by
  obtain ⟨first, more, rfl, hmore⟩ := h
  refine ⟨first, more ++ [⟨call, answer⟩], by simp, fun e he => ?_⟩
  rcases List.mem_append.1 he with he | he
  · exact hmore e he
  · rw [List.mem_singleton.1 he]
    exact halone

private theorem obeys_check {condition : Bool} {message : String} {post : DriverLog → DriverContexts → Unit → Prop}
    {failed : DriverLog → DriverContexts → HandoffError → Prop} (hpost : condition = true → post log contexts ())
    (hfailed : condition = false → ∀ e, failed log contexts e) :
    (Driver.require condition message).Obeys Any contexts log post failed := by
  unfold Driver.require
  split
  · exact Procedure.obeys_pure (hpost ‹_›)
  · exact Procedure.obeys_throw (hfailed (Bool.not_eq_true _ ▸ ‹_›) _)

private theorem obeys_acceptPod_tried {name uid podIP : String} (hrunning : running? pod = some (name, uid, podIP))
    (hdesired : driver.imageOf? (context.target.imageDigest.getD context.target.revision) = some context.desiredImage)
    (hobserved : ∀ pod', driver.Observes context.target context.operationId log pod' → pod' = pod)
    (htried : Tried context start log) :
    (driver.acceptPod context pod name uid podIP).Obeys Any contexts log
      (fun log' contexts' candidate => Holds driver context contexts log' contexts' candidate ∧ Tried context start log')
      fun log' contexts' _ => Failing driver context contexts log' contexts' ∧ Tried context start log' := by
  have hrefused : ¬driver.Accepts context.target pod → Failing driver context contexts log contexts := by
    intro hnot
    refine .inl ⟨rfl, fun pod' hpod => ?_⟩
    rwa [hobserved pod' hpod]
  unfold acceptPod
  dsimp only
  split
  · rename_i himage
    refine Procedure.obeys_throw ⟨hrefused ?_, htried⟩
    rintro ⟨image, hpresent, -⟩
    rw [himage] at hpresent
    cases hpresent
  · rename_i image himage
    refine Procedure.obeys_bind (obeys_check (fun hdesired' => ?_) fun hother e => ⟨hrefused ?_, htried⟩)
    · refine Procedure.obeys_bind (obeys_check (fun hrevision => ?_) fun hother e => ⟨hrefused ?_, htried⟩)
      · refine Procedure.obeys_bind (obeys_check (fun hdigest => ?_) fun hother e => ⟨hrefused ?_, htried⟩)
        · have haccepts : driver.Accepts context.target pod :=
            ⟨image, himage, hdesired.trans (congrArg some (of_decide_eq_true hdesired').symm),
              of_decide_eq_true hrevision, hdigest⟩
          have hsame : ∀ (candidate : RoomResourceRef) (answer : Except HandoffError Unit) (pod' : KubernetesPod),
              driver.Observes context.target context.operationId
                (log ++ [⟨.patchPodRoles context.target.activePod candidate context.target.currentEpoch, answer⟩]) pod' →
                  pod' = pod := by
            intro candidate answer pod' hpod
            rcases observes_append.1 hpod with hpod | hpod
            · exact hobserved pod' hpod
            · exact absurd hpod (not_observes_single fun _ => nofun)
          refine Procedure.obeys_bind (Procedure.obeys_modify ?_)
          refine Procedure.obeys_bind (Procedure.obeys_perform trivial (fun _ => ?_) fun e => ?_)
          · refine Procedure.obeys_pure ⟨⟨rfl, fun pod' hpod => ?_⟩, htried.append (by trivial) _⟩
            rw [hsame _ _ pod' hpod]
            exact ⟨podIP, hrunning⟩
          · refine ⟨.inr ⟨_, rfl, fun pod' hpod => ?_⟩, htried.append (by trivial) _⟩
            rw [hsame _ _ pod' hpod]
            exact ⟨haccepts, podIP, hrunning⟩
        · rintro ⟨image', -, -, -, hdigest⟩
          rw [hdigest] at hother
          cases hother
      · rintro ⟨image', hpresent, -, hrevision, -⟩
        obtain rfl : image = image' := Option.some.inj (himage.symm.trans hpresent)
        exact of_decide_eq_false hother hrevision
    · rintro ⟨image', hpresent, hwanted, -, -⟩
      obtain rfl : image = image' := Option.some.inj (himage.symm.trans hpresent)
      exact of_decide_eq_false hother (Option.some.inj (hwanted.symm.trans hdesired))

/-- The polls go on until a pod is observed. -/
private theorem obeys_awaitPod_tried (polls : Nat)
    (hdesired : driver.imageOf? (context.target.imageDigest.getD context.target.revision) = some context.desiredImage)
    (hobserved : ∀ pod, ¬driver.Observes context.target context.operationId log pod)
    (htried : Tried context start log) :
    (driver.awaitPod context polls).Obeys Any contexts log
      (fun log' contexts' candidate => Holds driver context contexts log' contexts' candidate ∧ Tried context start log')
      fun log' contexts' _ => Failing driver context contexts log' contexts' ∧ Tried context start log' := by
  induction polls generalizing log with
  | zero => exact Procedure.obeys_throw ⟨.inl ⟨rfl, fun pod hpod => absurd hpod (hobserved pod)⟩, htried⟩
  | succ polls ih =>
    refine Procedure.obeys_bind (Procedure.obeys_perform trivial (fun pods => ?_) fun e => ?_)
    · have hlisted : ∀ pod, driver.Observes context.target context.operationId
          (log ++ [⟨.listRoomPods context.target.roomId, .ok pods⟩]) pod ↔
            driver.newestPod context pods = some pod ∧ (running? pod).isSome = true := fun pod =>
        observes_append.trans ((or_iff_right (hobserved pod)).trans observes_listing)
      split
      · rename_i pod name uid podIP hfound
        obtain ⟨newest, hnewest, hmap⟩ := Option.bind_eq_some_iff.1 hfound
        obtain ⟨found, hrunning, heq⟩ := Option.map_eq_some_iff.1 hmap
        cases heq
        refine obeys_acceptPod_tried hrunning hdesired (fun pod' hpod => ?_) (htried.append (by trivial) _)
        exact Option.some.inj (((hlisted pod').1 hpod).1.symm.trans hnewest)
      · rename_i hfound
        refine ih (fun pod hpod => ?_) (htried.append (by trivial) _)
        obtain ⟨hnewest, hrunning⟩ := (hlisted pod).1 hpod
        obtain ⟨found, hfound'⟩ := Option.isSome_iff_exists.1 hrunning
        rw [hnewest, Option.bind_some, hfound', Option.map_some] at hfound
        cases hfound
    · refine ⟨.inl ⟨rfl, fun pod hpod => ?_⟩, htried.append (by trivial) _⟩
      rcases observes_append.1 hpod with hpod | ⟨_, _, _, -, -, hmem, -⟩
      · exact absurd hpod (hobserved pod)
      · rw [List.mem_singleton] at hmem
        cases hmem

private theorem obeys_rollOut_tried (polls : Nat)
    (hdesired : driver.imageOf? (context.target.imageDigest.getD context.target.revision) = some context.desiredImage)
    (hobserved : ∀ pod, ¬driver.Observes context.target context.operationId log pod) :
    (driver.rollOut polls context).Obeys Any contexts log
      (fun log' contexts' candidate => Holds driver context contexts log' contexts' candidate ∧ Tried context log log')
      fun log' contexts' _ => Failing driver context contexts log' contexts' ∧ Tried context log log' := by
  have hpatched : ∀ (answer : Except HandoffError Unit) pod, ¬driver.Observes context.target context.operationId
      (log ++ [⟨scheduling context, answer⟩]) pod := by
    intro answer pod hpod
    rcases observes_append.1 hpod with hpod | hpod
    · exact hobserved pod hpod
    · exact not_observes_single (fun _ h => by cases h) hpod
  have htried : ∀ answer : Except HandoffError Unit, Tried context log (log ++ [⟨scheduling context, answer⟩]) :=
    fun answer => ⟨answer, [], rfl, fun e he => absurd he List.not_mem_nil⟩
  refine Procedure.obeys_bind (Procedure.obeys_perform trivial (fun _ => ?_) fun e => ?_)
  · exact obeys_awaitPod_tried polls hdesired (hpatched _) (htried _)
  · exact ⟨.inl ⟨rfl, fun pod hpod => absurd hpod (hpatched _ pod)⟩, htried _⟩

/-- The failed call has undone what it tried: it has restored the Deployment and then deleted the candidate, if there
was one. -/
private def Undone (driver : KubernetesRoomHandoffDriver) (context : DriverContext) (start log : DriverLog) : Prop :=
  ∃ (tried : DriverLog) (restored : Except HandoffError Unit) (deletions : DriverLog),
    log = tried ++ ⟨restoring context, restored⟩ :: deletions ∧ Tried context start tried ∧
      ((deletions = [] ∧
        ∀ pod, driver.Observes context.target context.operationId tried pod → ¬driver.Accepts context.target pod) ∨
      ∃ (candidate : RoomCandidate) (deleted : Except HandoffError Unit),
        deletions = [⟨.deletePod candidate.name candidate.uid, deleted⟩] ∧
          ∀ pod, driver.Observes context.target context.operationId tried pod → driver.Accepts context.target pod ∧
            ∃ podIP, running? pod = some (candidate.name, candidate.uid, podIP))

/-- What an undo does once it has asked for the template, whatever it was answered. -/
private theorem obeys_undo_rest (hcandidate : context.candidate = none) (error : HandoffError)
    {contexts' : DriverContexts} (hfailing : Failing driver context (contexts.set context) log contexts')
    (htried : Tried context start log) {post : DriverLog → DriverContexts → RoomCandidate → Prop}
    (restored : Except HandoffError Unit) :
    (do
      let contexts ← get
      let current := (contexts.byRoom context.target.roomId).getD context
      match current.candidate with
      | some candidate => Driver.swallow (Driver.request (.deletePod candidate.name candidate.uid))
      | none => pure ()
      modify fun contexts => contexts.clearContext current
      throw error : Driver RoomCandidate).Obeys Any contexts' (log ++ [⟨restoring context, restored⟩]) post
        fun log' _ _ => Undone driver context start log' := by
  have hswallow : ∀ {name uid : String} {log : DriverLog} {contexts : DriverContexts}
      {post : DriverLog → DriverContexts → Unit → Prop} {failed : DriverLog → DriverContexts → HandoffError → Prop},
      (∀ answer, post (log ++ [⟨.deletePod name uid, answer⟩]) contexts ()) →
        (Driver.swallow (Driver.request (.deletePod name uid))).Obeys Any contexts log post failed := by
    intro name uid log contexts post failed hpost
    refine Procedure.obeys_tryCatch (Procedure.obeys_perform trivial (fun _ => hpost _) fun e => ?_)
    exact Procedure.obeys_pure (hpost _)
  refine Procedure.obeys_bind (Procedure.obeys_get ?_)
  rcases hfailing with ⟨rfl, hnone⟩ | ⟨candidate, rfl, hobserved⟩
  · have hcurrent : (contexts.set context).byRoom context.target.roomId = some context := Function.update_self ..
    rw [hcurrent, Option.getD_some]
    dsimp only
    rw [hcandidate]
    refine Procedure.obeys_bind (Procedure.obeys_modify (Procedure.obeys_throw ?_))
    exact ⟨log, restored, [], rfl, htried, .inl ⟨rfl, hnone⟩⟩
  · have hcurrent : ((contexts.set context).assign context candidate).byRoom context.target.roomId =
        some { context with candidate := some candidate } := Function.update_self ..
    rw [hcurrent, Option.getD_some]
    dsimp only
    refine Procedure.obeys_bind (hswallow fun deleted => ?_)
    refine Procedure.obeys_bind (Procedure.obeys_modify (Procedure.obeys_throw ?_))
    exact ⟨log, restored, _, by rw [List.append_assoc]; rfl, htried, .inr ⟨candidate, deleted, rfl, hobserved⟩⟩

private theorem obeys_undo_tried (hcandidate : context.candidate = none) (error : HandoffError)
    {contexts' : DriverContexts} (hfailing : Failing driver context (contexts.set context) log contexts')
    (htried : Tried context start log) {post : DriverLog → DriverContexts → RoomCandidate → Prop} :
    (undo context error).Obeys Any contexts' log post fun log' _ _ => Undone driver context start log' := by
  refine Procedure.obeys_bind (Procedure.obeys_tryCatch (Procedure.obeys_perform trivial
    (fun _ => obeys_undo_rest hcandidate error hfailing htried _) fun e => ?_))
  exact Procedure.obeys_pure (obeys_undo_rest hcandidate error hfailing htried _)

/-- The context that a scheduling opens for what it has read. -/
private structure Opens (driver : KubernetesRoomHandoffDriver) (target : RoomHandoffTarget) (operationId : String)
    (deployment : KubernetesDeployment) (context : DriverContext) : Prop where
  sameTarget : context.target = target
  sameOperation : context.operationId = operationId
  deploymentName : context.deploymentName = driver.deploymentName target.roomId
  container : ∃ container,
    (deployment.containers.find? fun entry => decide (entry.name = some "game-server")) = some container ∧
      presentText container.image = some context.originalImage ∧
      context.originalBuildRevision = ((container.env.find? fun entry =>
        decide (entry.1 = some "OPSIA_GAME_BUILD_REVISION")).bind (·.2)).getD (imageRevision context.originalImage)
  annotations : context.originalTemplateAnnotations =
    handoffAnnotations.map fun key => (key, deployment.annotations.lookup key)
  desired : driver.imageOf? (target.imageDigest.getD target.revision) = some context.desiredImage

/-- The call has not come to its patch. -/
private def Stopped (driver : KubernetesRoomHandoffDriver) (target : RoomHandoffTarget) (operationId : String)
    (contexts : DriverContexts) (log : DriverLog) : Prop :=
  (log = [] ∧ ((roomOrdinal? target.roomId).filter (· < driver.roomCount) = none ∨ operationId = "" ∨
    (contexts.byRoom target.roomId).isSome = true)) ∨
  (∃ error, log = [⟨.readDeployment (driver.deploymentName target.roomId), .error error⟩]) ∨
  ∃ deployment : KubernetesDeployment,
    log = [⟨.readDeployment (driver.deploymentName target.roomId), .ok deployment⟩] ∧
      (presentText ((deployment.containers.find? fun entry => decide (entry.name = some "game-server")).bind (·.image)) =
        none ∨ driver.imageOf? (target.imageDigest.getD target.revision) = none)

/-- The call has come to its patch: its guards have passed. -/
private structure Began (driver : KubernetesRoomHandoffDriver) (target : RoomHandoffTarget) (operationId : String)
    (contexts : DriverContexts) : Prop where
  ordinal : (roomOrdinal? target.roomId).filter (· < driver.roomCount) ≠ none
  present : operationId ≠ ""
  free : (contexts.byRoom target.roomId).isSome = false

private theorem obeys_imageForRevision {revision : String} {post : DriverLog → DriverContexts → String → Prop}
    {failed : DriverLog → DriverContexts → HandoffError → Prop}
    (hpost : ∀ image, driver.imageOf? revision = some image → post log contexts image)
    (hfailed : driver.imageOf? revision = none → ∀ e, failed log contexts e) :
    (driver.imageForRevision revision).Obeys Any contexts log post failed := by
  unfold imageOf? at hpost hfailed
  unfold imageForRevision
  split
  · rename_i hdigest
    exact Procedure.obeys_pure (hpost _ (if_pos hdigest))
  · rename_i hdigest
    rw [if_neg hdigest] at hpost hfailed
    split
    · rename_i htag
      exact Procedure.obeys_pure (hpost _ (if_pos htag))
    · rename_i htag
      exact Procedure.obeys_throw (hfailed (if_neg htag) _)

/-- A call of `scheduleCandidate` stops before its patch, or has undone what it tried, or holds its candidate. -/
private theorem obeys_scheduleCandidate_tried (driver : KubernetesRoomHandoffDriver) (polls : Nat)
    (target : RoomHandoffTarget) (operationId : String) (contexts : DriverContexts) :
    (driver.scheduleCandidate polls target operationId).Obeys Any contexts []
      (fun log contexts' candidate => ∃ deployment context, Opens driver target operationId deployment context ∧
        Holds driver context (contexts.set context) log contexts' candidate ∧
        Tried context [⟨.readDeployment context.deploymentName, .ok deployment⟩] log)
      fun log _ _ => Stopped driver target operationId contexts log ∨
        Began driver target operationId contexts ∧
          ∃ deployment context, Opens driver target operationId deployment context ∧
            Undone driver context [⟨.readDeployment context.deploymentName, .ok deployment⟩] log := by
  unfold scheduleCandidate
  cases hordinal : (roomOrdinal? target.roomId).filter (· < driver.roomCount) with
  | none =>
    unfold ordinalForRoom
    rw [hordinal]
    exact Procedure.obeys_bind (Procedure.obeys_throw (.inl (.inl ⟨rfl, .inl hordinal⟩)))
  | some ordinal =>
    have hname : driver.deploymentPrefix ++ "-" ++ toString ordinal = driver.deploymentName target.roomId := by
      unfold deploymentName
      rw [(Option.filter_eq_some_iff.1 hordinal).1]
      rfl
    unfold ordinalForRoom
    rw [hordinal]
    refine Procedure.obeys_bind (Procedure.obeys_pure ?_)
    refine Procedure.obeys_bind (Procedure.obeys_get ?_)
    refine Procedure.obeys_bind (obeys_check (fun hguard => ?_) fun hguard e => .inl (.inl ⟨rfl, ?_⟩))
    · rw [Bool.and_eq_true, decide_eq_true_iff, Option.isNone_iff_eq_none] at hguard
      have hbegan : Began driver target operationId contexts := by
        refine ⟨?_, hguard.1, by rw [hguard.2]; rfl⟩
        rw [hordinal]
        exact Option.some_ne_none ordinal
      rw [hname]
      refine Procedure.obeys_bind (Procedure.obeys_perform trivial (fun deployment => ?_) fun e => ?_)
      · rw [List.nil_append]
        dsimp only
        split
        · rename_i hcontainer
          refine Procedure.obeys_throw (.inl (.inr (.inr ⟨deployment, rfl, .inl ?_⟩)))
          rw [hcontainer]
          rfl
        · rename_i container hcontainer
          split
          · rename_i himage
            refine Procedure.obeys_throw (.inl (.inr (.inr ⟨deployment, rfl, .inl ?_⟩)))
            rw [hcontainer]
            exact himage
          · rename_i image himage
            refine Procedure.obeys_bind (obeys_imageForRevision (fun desired hdesired => ?_) fun hnone e =>
              .inl (.inr (.inr ⟨deployment, rfl, .inr hnone⟩)))
            refine Procedure.obeys_bind (Procedure.obeys_modify ?_)
            have hopens : Opens driver target operationId deployment
                { operationId := operationId, target := target, candidate := none
                  deploymentName := driver.deploymentName target.roomId, originalImage := image
                  originalRevision := imageRevision image
                  originalBuildRevision := ((container.env.find? fun entry =>
                    decide (entry.1 = some "OPSIA_GAME_BUILD_REVISION")).bind (·.2)).getD (imageRevision image)
                  originalTemplateAnnotations := handoffAnnotations.map fun key =>
                    (key, deployment.annotations.lookup key)
                  desiredImage := desired } :=
              ⟨rfl, rfl, rfl, ⟨container, hcontainer, himage, rfl⟩, rfl, hdesired⟩
            refine Procedure.obeys_tryCatch ((obeys_rollOut_tried polls hdesired fun pod hpod => ?_).mono ?_ ?_)
            · exact not_observes_single (fun _ h => by cases h) hpod
            · rintro log' contexts' candidate ⟨hholds, htried⟩
              exact ⟨deployment, _, hopens, hholds, htried⟩
            · rintro log' contexts' e ⟨hfailing, htried⟩
              refine (obeys_undo_tried rfl e hfailing htried).mono (fun _ _ _ h => h) fun _ _ _ hundone => ?_
              exact .inr ⟨hbegan, deployment, _, hopens, hundone⟩
      · exact .inl (.inr (.inl ⟨e, rfl⟩))
    · rw [Bool.and_eq_false_iff, decide_eq_false_iff_not, not_not, Option.isNone_eq_false_iff] at hguard
      exact .inr hguard

/-- A discard that returns has restored the Deployment and deleted the candidate. -/
private theorem obeys_discardCandidate_restores {candidate : RoomCandidate}
    (hcontext : contexts.byCandidateUid candidate.uid = some context) :
    (discardCandidate candidate).Obeys Any contexts []
      (fun log _ _ => log = [⟨restoring context, .ok ()⟩, ⟨.deletePod candidate.name candidate.uid, .ok ()⟩])
      fun _ _ _ => True := by
  unfold discardCandidate contextFor
  refine Procedure.obeys_bind (Procedure.obeys_bind (Procedure.obeys_get ?_))
  rw [hcontext]
  refine Procedure.obeys_pure ?_
  refine Procedure.obeys_bind (Procedure.obeys_perform trivial (fun _ => ?_) fun _ => trivial)
  refine Procedure.obeys_bind (Procedure.obeys_perform trivial (fun _ => ?_) fun _ => trivial)
  exact Procedure.obeys_modify rfl

/-! ### The template after the cleanup -/

variable {deployment : KubernetesDeployment} {template : PodTemplate} {name : String}

private theorem find?_shown (h : template.Shows deployment) :
    (deployment.containers.find? fun entry => decide (entry.name = some "game-server")) =
      (template.containers.find? fun container => decide (container.name = "game-server")).map fun container =>
        { name := some container.name, image := container.image
          env := container.env.map fun entry => (some entry.name, entry.value) } := by
  rw [h.containers, List.find?_map]
  congr 2
  funext container
  exact decide_eq_decide.2 Option.some_inj

private theorem gameImage_shown (h : template.Shows deployment) :
    presentText ((deployment.containers.find? fun entry => decide (entry.name = some "game-server")).bind (·.image)) =
      template.gameImage := by
  unfold PodTemplate.gameImage
  rw [find?_shown h, Option.bind_map]
  rfl

/-- What the context remembers of what it was shown, it remembers of the template. -/
private theorem Opens.remembered (h : Opens driver target operationId deployment context)
    (hshows : template.Shows deployment) : template.RememberedBy context := by
  obtain ⟨shown, hshown, himage, hrevision⟩ := h.container
  rw [find?_shown hshows] at hshown
  obtain ⟨container, hcontainer, rfl⟩ := Option.map_eq_some_iff.1 hshown
  refine ⟨⟨container, hcontainer, (Option.filter_eq_some_iff.1 himage).1⟩, ?_, ?_⟩
  · rw [hrevision]
    unfold PodTemplate.gameEnv
    rw [hcontainer, Option.bind_some, List.find?_map, Option.bind_map]
    have hkey : ((fun entry : Option String × Option String => decide (entry.1 = some "OPSIA_GAME_BUILD_REVISION")) ∘
        fun entry : TemplateEnvVar => (some entry.name, entry.value)) =
          fun entry => decide (entry.name = "OPSIA_GAME_BUILD_REVISION") := by
      funext entry
      exact decide_eq_decide.2 Option.some_inj
    rw [hkey]
    rfl
  · rw [h.annotations]
    exact List.map_congr_left fun key _ => by rw [hshows.annotations]

private theorem restores_restoring (h : template.RememberedBy context) : restores (restoring context) = true := by
  refine decide_eq_true ?_
  rw [h.annotations, List.map_map]
  rfl

/-- After the tried requests the template is the original one, or that one with the patch of the scheduling. -/
private theorem Tried.takes (h : Tried context [⟨.readDeployment name, .ok deployment⟩] log)
    (htakes : TakesAll log before after) : (before name).Shows deployment ∧ (after = before ∨
      after = Function.update before context.deploymentName ((before context.deploymentName).patched
        context.desiredImage context.target.revision [("opsia.dev/handoff-operation", some context.operationId),
          ("opsia.dev/handoff-revision", some context.target.revision)])) := by
  obtain ⟨answer, more, rfl, hmore⟩ := h
  obtain ⟨between, hread, htakes⟩ := htakes
  obtain ⟨patched, hpatch, hrest⟩ := htakes
  obtain rfl := hrest.eq_of_leavesAlone hmore
  cases hread with
  | read _ _ _ hshows =>
    refine ⟨hshows, ?_⟩
    cases hpatch with
    | patched | merged => exact .inr rfl
    | lost => exact .inl rfl

/-- The restoring makes the same of the original template as of the patched one. -/
private theorem takes_restoring (h : (before context.deploymentName).RememberedBy context)
    {between : String → PodTemplate} (hbetween : between = before ∨
      between = Function.update before context.deploymentName ((before context.deploymentName).patched
        context.desiredImage context.target.revision [("opsia.dev/handoff-operation", some context.operationId),
          ("opsia.dev/handoff-revision", some context.target.revision)]))
    (htakes : Takes ⟨restoring context, .ok ()⟩ between after) :
    after = Function.update before context.deploymentName ((before context.deploymentName).patched
      context.originalImage context.originalBuildRevision context.originalTemplateAnnotations) := by
  cases htakes with
  | patched =>
    rcases hbetween with rfl | rfl
    · rfl
    · rw [Function.update_self, Function.update_idem, h.restored_patched]

private theorem update_restored_iff (h : (before context.deploymentName).RememberedBy context) :
    Function.update before context.deploymentName ((before context.deploymentName).patched
      context.originalImage context.originalBuildRevision context.originalTemplateAnnotations) = before ↔
        (before context.deploymentName).Restorable := by
  rw [Function.update_eq_self_iff]
  exact h.restored_eq_self_iff

/-- The pod is deleted. -/
def Deleted (log : DriverLog) (pod : KubernetesPod) : Prop :=
  ∃ name uid podIP, running? pod = some (name, uid, podIP) ∧ ⟨.deletePod name uid, .ok ()⟩ ∈ log

/-- A call that stops before its patch has given up, has observed nothing and leaves the templates as they are. -/
private theorem Stopped.leaves (h : Stopped driver target operationId contexts log)
    (htakes : TakesAll log before after) :
    driver.GivesUp target operationId contexts before log ∧ after = before ∧
      ∀ pod, ¬driver.Observes target operationId log pod := by
  rcases h with ⟨rfl, hguard⟩ | ⟨error, rfl⟩ | ⟨deployment, rfl, hunfit⟩
  · refine ⟨?_, htakes, fun pod hpod => ?_⟩
    · rcases hguard with hordinal | hempty | htaken
      · exact .inl hordinal
      · exact .inr (.inl hempty)
      · exact .inr (.inr (.inl htaken))
    · obtain ⟨_, _, _, -, -, hmem, -⟩ := hpod
      cases hmem
  · obtain ⟨between, hread, rfl⟩ := htakes
    refine ⟨.inr (.inr (.inr (.inr (.inl fun name deployment hmem => ?_)))), ?_, fun pod => ?_⟩
    · rw [List.mem_singleton] at hmem
      cases hmem
    · cases hread with
      | unread => rfl
    · exact not_observes_single fun _ heq => by cases heq
  · obtain ⟨between, hread, rfl⟩ := htakes
    cases hread with
    | read _ _ _ hshows =>
      refine ⟨?_, rfl, fun pod => not_observes_single fun _ heq => by cases heq⟩
      rcases hunfit with himage | hrevision
      · rw [gameImage_shown hshows] at himage
        exact .inr (.inr (.inr (.inr (.inr himage))))
      · exact .inr (.inr (.inr (.inl hrevision)))

/-- A call whose guards pass and that is shown a game server with an image does not give up. -/
private theorem not_givesUp (hbegan : Began driver target operationId contexts)
    (hopens : Opens driver target operationId deployment context)
    (hread : ⟨.readDeployment context.deploymentName, .ok deployment⟩ ∈ log)
    (hshows : (before context.deploymentName).Shows deployment) :
    ¬driver.GivesUp target operationId contexts before log := by
  rintro (hordinal | hempty | htaken | hrevision | hunread | himage)
  · exact hbegan.ordinal hordinal
  · exact hbegan.present hempty
  · rw [hbegan.free] at htaken
    cases htaken
  · rw [hopens.desired] at hrevision
    cases hrevision
  · exact hunread _ _ hread
  · obtain ⟨container, hcontainer, hpresent, -⟩ := hopens.container
    rw [← hopens.deploymentName, ← gameImage_shown hshows, hcontainer] at himage
    exact Option.some_ne_none _ (hpresent.symm.trans himage)

/-- A call that has undone what it tried, all of it with success, leaves the template as it was just when that is
restorable, and has deleted the pod it observed just when that is acceptable. -/
private theorem Undone.leaves_iff (hopens : Opens driver target operationId deployment context)
    (h : Undone driver context [⟨.readDeployment context.deploymentName, .ok deployment⟩] log)
    (htakes : TakesAll log before after) (hclean : CleanupSucceeds log) :
    (before context.deploymentName).Shows deployment ∧
      (after = before ↔ (before context.deploymentName).Restorable) ∧
      ((∀ pod, driver.Observes target operationId log pod → Deleted log pod) ↔
        ∀ pod, driver.Observes target operationId log pod → driver.Accepts target pod) := by
  obtain ⟨tried, restored, deletions, rfl, htried, hend⟩ := h
  obtain ⟨between, htriedTakes, restoredTo, hrestoring, hdeletions⟩ := takesAll_append.1 htakes
  obtain ⟨hshows, hbetween⟩ := htried.takes htriedTakes
  have hremembered := hopens.remembered hshows
  have hobserves : ∀ pod, driver.Observes target operationId (tried ++ ⟨restoring context, restored⟩ :: deletions) pod →
      driver.Observes context.target context.operationId tried pod := by
    rw [hopens.sameTarget, hopens.sameOperation]
    rintro pod ⟨opened, roomId, pods, htarget, hoperation, hmem, hnewest⟩
    rcases List.mem_append.1 hmem with hmem | hmem
    · exact ⟨opened, roomId, pods, htarget, hoperation, hmem, hnewest⟩
    · rcases List.mem_cons.1 hmem with heq | hmem
      · cases heq
      · rcases hend with ⟨rfl, -⟩ | ⟨candidate, deleted, rfl, -⟩
        · cases hmem
        · rw [List.mem_singleton] at hmem
          cases hmem
  have hsame : ∀ pod, driver.Observes context.target context.operationId tried pod →
      driver.Observes target operationId (tried ++ ⟨restoring context, restored⟩ :: deletions) pod := by
    rw [hopens.sameTarget, hopens.sameOperation]
    rintro pod ⟨opened, roomId, pods, htarget, hoperation, hmem, hnewest⟩
    exact ⟨opened, roomId, pods, htarget, hoperation, List.mem_append_left _ hmem, hnewest⟩
  refine ⟨hshows, ?_, ?_⟩
  · obtain ⟨result, hok⟩ := hclean ⟨restoring context, restored⟩
      (List.mem_append_right _ List.mem_cons_self) (restores_restoring hremembered)
    obtain rfl : restored = .ok () := hok
    have hafter : after = restoredTo := by
      rcases hend with ⟨rfl, -⟩ | ⟨candidate, deleted, rfl, -⟩
      · exact hdeletions
      · obtain ⟨last, hdelete, rfl⟩ := hdeletions
        cases hdelete with
        | deleted => rfl
    rw [hafter, takes_restoring hremembered hbetween hrestoring, update_restored_iff hremembered]
  · rcases hend with ⟨rfl, hnone⟩ | ⟨candidate, deleted, rfl, hobserved⟩
    · -- without a candidate nothing is deleted
      refine forall₂_congr fun pod hpod => ?_
      have hrefused := hnone pod (hobserves pod hpod)
      rw [hopens.sameTarget] at hrefused
      refine iff_of_false ?_ hrefused
      rintro ⟨name, uid, podIP, -, hmem⟩
      obtain ⟨answer, more, rfl, hmore⟩ := htried
      rcases List.mem_append.1 hmem with hmem | hmem
      · rcases List.mem_append.1 hmem with hmem | hmem
        · rw [List.mem_singleton] at hmem
          cases hmem
        · rcases List.mem_cons.1 hmem with heq | hmem
          · cases heq
          · exact hmore _ hmem
      · rw [List.mem_singleton] at hmem
        cases hmem
    · refine forall₂_congr fun pod hpod => ?_
      obtain ⟨haccepts, podIP, hrunning⟩ := hobserved pod (hobserves pod hpod)
      rw [hopens.sameTarget] at haccepts
      have hmem : (⟨.deletePod candidate.name candidate.uid, deleted⟩ :
          Exchange fun call : DriverCall => Except HandoffError call.Result) ∈
            tried ++ ⟨restoring context, restored⟩ :: [⟨.deletePod candidate.name candidate.uid, deleted⟩] := by simp
      obtain ⟨result, hok⟩ := hclean _ hmem rfl
      obtain rfl : deleted = .ok () := hok
      exact iff_of_true ⟨_, _, podIP, hrunning, hmem⟩ haccepts

/-- Once all requests of its cleanup have succeeded, a call of `scheduleCandidate` that has failed leaves the templates
as they were and the observed pod deleted, just when it gave up before its patch, or the template has all variables that
the restoring sets, as it sets them, and the pod is the one that was asked for.  A later `discardCandidate` that succeeds
leaves the template of its Deployment as it was before the scheduling just when that template has them, and deletes the
pod. -/
theorem cleanup_leaves_template_iff (driver : KubernetesRoomHandoffDriver) (polls : Nat) (target : RoomHandoffTarget)
    (operationId : String) (contexts : DriverContexts) (before : String → PodTemplate) :
    (∀ log error contexts' after,
      ((driver.scheduleCandidate polls target operationId).script contexts).Runs log (.error error, contexts') →
      TakesAll log before after → CleanupSucceeds log →
        ((after = before ∧ ∀ pod, driver.Observes target operationId log pod → Deleted log pod) ↔
          driver.GivesUp target operationId contexts before log ∨
            (before (driver.deploymentName target.roomId)).Restorable ∧
              ∀ pod, driver.Observes target operationId log pod → driver.Accepts target pod)) ∧
    ∀ log candidate contexts' scheduled,
      ((driver.scheduleCandidate polls target operationId).script contexts).Runs log (.ok candidate, contexts') →
      TakesAll log before scheduled →
        ∀ (later : DriverContexts) (kept : String → PodTemplate) log' contexts'' after,
          later.byCandidateUid candidate.uid = contexts'.byCandidateUid candidate.uid →
          kept (driver.deploymentName target.roomId) = scheduled (driver.deploymentName target.roomId) →
          ((discardCandidate candidate).script later).Runs log' (.ok (), contexts'') → TakesAll log' kept after →
            ((after (driver.deploymentName target.roomId) = before (driver.deploymentName target.roomId) ∧
                ∀ pod, driver.Observes target operationId log pod → Deleted log' pod) ↔
              (before (driver.deploymentName target.roomId)).Restorable) := by
  have hscheduling := obeys_scheduleCandidate_tried driver polls target operationId contexts
  unfold Procedure.Obeys at hscheduling
  constructor
  · intro log error contexts' after hruns htakes hclean
    rcases hscheduling.runs hruns with hstopped | ⟨hbegan, deployment, context, hopens, hundone⟩
    · obtain ⟨hgivesUp, hsame, hnone⟩ := hstopped.leaves htakes
      exact iff_of_true ⟨hsame, fun pod hpod => absurd hpod (hnone pod)⟩ (.inl hgivesUp)
    · obtain ⟨hshows, htemplate, hpods⟩ := hundone.leaves_iff hopens htakes hclean
      have hread : (⟨.readDeployment context.deploymentName, .ok deployment⟩ :
          Exchange fun call : DriverCall => Except HandoffError call.Result) ∈ log := by
        obtain ⟨tried, restored, deletions, rfl, ⟨answer, more, rfl, -⟩, -⟩ := hundone
        simp
      rw [or_iff_right (not_givesUp hbegan hopens hread hshows), htemplate, hpods, hopens.deploymentName]
  · intro log candidate contexts' scheduled hruns htakes later kept log' contexts'' after hlater hkept hdiscard htakes'
    obtain ⟨deployment, context, hopens, ⟨hcontexts, hobserved⟩, htried⟩ := hscheduling.runs hruns
    obtain ⟨hshows, hscheduled⟩ := htried.takes htakes
    have hremembered := hopens.remembered hshows
    have hcontext : later.byCandidateUid candidate.uid = some { context with candidate := some candidate } := by
      rw [hlater, hcontexts]
      exact Function.update_self ..
    have hlog := (obeys_discardCandidate_restores hcontext).returned hdiscard
    rw [hlog] at htakes'
    obtain ⟨restored, hrestoring, last, hdelete, rfl⟩ := htakes'
    obtain rfl : after = restored := by
      cases hdelete with
      | deleted => rfl
    rw [hopens.sameTarget, hopens.sameOperation] at hobserved
    rw [← hopens.deploymentName] at hkept ⊢
    have hdeleted : ∀ pod, driver.Observes target operationId log pod → Deleted log' pod := by
      intro pod hpod
      obtain ⟨podIP, hrunning⟩ := hobserved pod hpod
      exact ⟨_, _, podIP, hrunning, by rw [hlog]; simp⟩
    have hafter : after context.deploymentName = (before context.deploymentName).patched context.originalImage
        context.originalBuildRevision context.originalTemplateAnnotations := by
      cases hrestoring with
      | patched =>
        rw [Function.update_self, hkept]
        rcases hscheduled with rfl | rfl
        · rfl
        · rw [Function.update_self, hremembered.restored_patched]
    rw [hafter, hremembered.restored_eq_self_iff]
    exact and_iff_left hdeleted

/-! ### A Deployment that comes back, and one that does not -/

open FinishedHandoff (oneRoomDriver oneRoomTarget)
open DriverContexts (empty)

def gameServerTemplate (env : List TemplateEnvVar) : PodTemplate where
  annotations := fun _ => none
  containers := [{ name := "game-server", image := some "registry/game-server:v1", env := env, others := [] }]
  others := []

def gameServerDeployment (env : List TemplateEnvVar) : KubernetesDeployment where
  annotations := []
  containers := [{ name := some "game-server", image := some "registry/game-server:v1"
                   env := env.map fun entry => (some entry.name, entry.value) }]

/-- All variables that the patches set, as they set them. -/
def patchedVariables : List TemplateEnvVar :=
  [{ name := "OPSIA_ROLE", value := some "auto", others := [] },
   { name := "OPSIA_GAME_BUILD_REVISION", value := some "v1", others := [] },
   { name := "REDIS_URL", value := some "redis://cache:6379/0", others := [] }]

def candidatePod : KubernetesPod where
  name := some "game-0-b"
  uid := some "b"
  resourceVersion := none
  creationTimestamp := none
  deletionTimestamp := none
  annotations := [("opsia.dev/handoff-operation", "operation-1")]
  containers := [{ name := some "game-server", image := some "registry/game-server:v2", env := [] }]
  phase := some "Running"
  podIP := some "10.0.0.2"
  containerStatuses := []

def candidateOfPod : RoomCandidate where
  name := "game-0-b"
  uid := "b"
  resourceVersion := none
  endpoint := "http://10.0.0.2:8001"
  revision := "v2"
  imageDigest := none

def wantedPatch : DriverCall :=
  .patchDeployment "game-0" "registry/game-server:v2" "v2"
    [("opsia.dev/handoff-operation", some "operation-1"), ("opsia.dev/handoff-revision", some "v2")]

def originalPatch : DriverCall :=
  .patchDeployment "game-0" "registry/game-server:v1" "v1"
    [("opsia.dev/handoff-operation", none), ("opsia.dev/handoff-revision", none), ("opsia.dev/handoff-rollback", none)]

/-- No pod of the candidate shows up in time, and the cleanup succeeds. -/
def timedOutLog (env : List TemplateEnvVar) : DriverLog :=
  [⟨.readDeployment "game-0", .ok (gameServerDeployment env)⟩, ⟨wantedPatch, .ok ()⟩, ⟨originalPatch, .ok ()⟩]

/-- The candidate's pod runs when the pods are first listed. -/
def scheduledLog : DriverLog :=
  [⟨.readDeployment "game-0", .ok (gameServerDeployment patchedVariables)⟩, ⟨wantedPatch, .ok ()⟩,
   ⟨.listRoomPods "room-0", .ok [candidatePod]⟩,
   ⟨.patchPodRoles oneRoomTarget.activePod candidateOfPod.toRoomResourceRef 1, .ok ()⟩]

def discardedLog : DriverLog := [⟨originalPatch, .ok ()⟩, ⟨.deletePod "game-0-b" "b", .ok ()⟩]

private theorem oneRoom_ordinal :
    (roomOrdinal? oneRoomTarget.roomId).filter (· < oneRoomDriver.roomCount) = some 0 := by decide +kernel

private theorem oneRoom_digest :
    imageDigestPattern (oneRoomTarget.imageDigest.getD oneRoomTarget.revision) = false := by decide +kernel

private theorem oneRoom_tag :
    imageTagPattern (oneRoomTarget.imageDigest.getD oneRoomTarget.revision) = true := by decide +kernel

private theorem timedOut_runs {env : List TemplateEnvVar}
    (henv : env = [] ∨ env = patchedVariables) :
    ∃ error contexts, ((oneRoomDriver.scheduleCandidate 0 oneRoomTarget "operation-1").script empty).Runs
      (timedOutLog env) (.error error, contexts) := by
  unfold scheduleCandidate ordinalForRoom imageForRevision
  rw [oneRoom_ordinal, oneRoom_digest, oneRoom_tag]
  rcases henv with rfl | rfl
  all_goals
    refine ⟨?_, ?_, ?_⟩
    rotate_left 2
    · refine .call ?_
      refine .call ?_
      refine .call ?_
      exact .refl _

private theorem scheduled_runs :
    ∃ contexts final, ((oneRoomDriver.scheduleCandidate 1 oneRoomTarget "operation-1").script empty).Runs scheduledLog
      (.ok candidateOfPod, contexts) ∧
        ((discardCandidate candidateOfPod).script contexts).Runs discardedLog (.ok (), final) := by
  unfold scheduleCandidate ordinalForRoom imageForRevision
  rw [oneRoom_ordinal, oneRoom_digest, oneRoom_tag]
  refine ⟨?_, ?_, ?_, ?_⟩
  rotate_left 2
  · refine .call ?_
    refine .call ?_
    refine .call ?_
    refine .call ?_
    exact .refl _
  · refine .call ?_
    refine .call ?_
    exact .refl _

private theorem shows_gameServer (env : List TemplateEnvVar) :
    (gameServerTemplate env).Shows (gameServerDeployment env) := ⟨fun _ => rfl, rfl⟩

private theorem timedOut_takes (env : List TemplateEnvVar) :
    ∃ after, TakesAll (timedOutLog env) (fun _ => gameServerTemplate env) after ∧ CleanupSucceeds (timedOutLog env) ∧
      (after "game-0").containers.map TemplateContainer.env =
        [envMerge.merge (gameServerPatch "registry/game-server:v1" "v1").env
          (envMerge.merge (gameServerPatch "registry/game-server:v2" "v2").env env)] := by
  refine ⟨_, ⟨_, .read _ _ _ (shows_gameServer env), _, .patched .., _, .patched .., rfl⟩, fun e he hrestores => ?_, rfl⟩
  unfold timedOutLog at he
  rw [List.mem_cons, List.mem_cons, List.mem_singleton] at he
  rcases he with rfl | rfl | rfl
  · cases hrestores
  · exact ⟨(), rfl⟩
  · exact ⟨(), rfl⟩

theorem restorable_deployment_comes_back :
    (∃ error contexts after, ((oneRoomDriver.scheduleCandidate 0 oneRoomTarget "operation-1").script empty).Runs
        (timedOutLog patchedVariables) (.error error, contexts) ∧
      TakesAll (timedOutLog patchedVariables) (fun _ => gameServerTemplate patchedVariables) after ∧
        after = fun _ => gameServerTemplate patchedVariables) ∧
    ∃ contexts final scheduled after, ((oneRoomDriver.scheduleCandidate 1 oneRoomTarget "operation-1").script empty).Runs
        scheduledLog (.ok candidateOfPod, contexts) ∧
      TakesAll scheduledLog (fun _ => gameServerTemplate patchedVariables) scheduled ∧
        ((discardCandidate candidateOfPod).script contexts).Runs discardedLog (.ok (), final) ∧
          TakesAll discardedLog scheduled after ∧
            after (oneRoomDriver.deploymentName oneRoomTarget.roomId) = gameServerTemplate patchedVariables := by
  have hrestorable : (gameServerTemplate patchedVariables).Restorable := by decide
  constructor
  · obtain ⟨error, contexts, hruns⟩ := timedOut_runs (.inr rfl)
    obtain ⟨after, htakes, hclean, -⟩ := timedOut_takes patchedVariables
    have hunobserved : ∀ pod, ¬oneRoomDriver.Observes oneRoomTarget "operation-1" (timedOutLog patchedVariables) pod := by
      rintro pod ⟨_, _, _, -, -, hmem, -⟩
      unfold timedOutLog wantedPatch originalPatch at hmem
      simp at hmem
    have hiff := (cleanup_leaves_template_iff oneRoomDriver 0 oneRoomTarget "operation-1" empty _).1
      _ error contexts after hruns htakes hclean
    have hsame := hiff.2 (.inr ⟨hrestorable, fun pod hpod => absurd hpod (hunobserved pod)⟩)
    exact ⟨error, contexts, after, hruns, htakes, hsame.1⟩
  · obtain ⟨contexts, final, hruns, hdiscard⟩ := scheduled_runs
    have htakes : ∃ scheduled, TakesAll scheduledLog (fun _ => gameServerTemplate patchedVariables) scheduled :=
      ⟨_, _, .read _ _ _ (shows_gameServer patchedVariables), _, .patched .., _, .pods .., _, .roles .., rfl⟩
    obtain ⟨scheduled, htakes⟩ := htakes
    have htakes' : ∃ after, TakesAll discardedLog scheduled after := ⟨_, _, .patched .., _, .deleted .., rfl⟩
    obtain ⟨after, htakes'⟩ := htakes'
    have hiff := (cleanup_leaves_template_iff oneRoomDriver 1 oneRoomTarget "operation-1" empty _).2
      _ candidateOfPod contexts scheduled hruns htakes contexts scheduled _ final after rfl rfl hdiscard htakes'
    exact ⟨contexts, final, scheduled, after, hruns, htakes, hdiscard, htakes', (hiff.2 hrestorable).1⟩

/-- A Deployment without the variables is left with them. -/
theorem variables_stay_behind :
    ¬∀ (before : String → PodTemplate) log error contexts after,
      ((oneRoomDriver.scheduleCandidate 0 oneRoomTarget "operation-1").script empty).Runs log (.error error, contexts) →
        TakesAll log before after → CleanupSucceeds log →
          after = before ∧ ∀ pod, oneRoomDriver.Observes oneRoomTarget "operation-1" log pod → Deleted log pod := by
  intro hclaim
  obtain ⟨error, contexts, hruns⟩ := timedOut_runs (.inl rfl)
  obtain ⟨after, htakes, hclean, hcontainers⟩ := timedOut_takes []
  obtain ⟨hsame, -⟩ := hclaim _ _ error contexts after hruns htakes hclean
  rw [hsame] at hcontainers
  have hlengths := congrArg (List.map List.length) hcontainers
  revert hlengths
  decide

end KubernetesRoomHandoffDriver

end Opsia
