import MeshLight.Proofs.Bulb.Chronicle
import MeshLight.Proofs.Bulb.Migration

/-!
# Updates come in groups

A light that holds a key collects update frames until each of the three fields has come, in whatever
order and however often, and then makes one attempt to adopt what came last of name and password.
Whether the attempt succeeds or not, the stage is empty afterwards, so the next frame begins another
group.

The groups are said of the list of updates alone. The invariant is that the stage holds what came
last of each field in the group that is still open, and that a group which is open is not complete.
-/

namespace MeshLight

/-- Credentials are their two texts. -/
theorem Credentials.eq_of_texts {first second : Credentials} (name : first.name = second.name)
    (password : first.password = second.password) : first = second := by
  cases first
  cases second
  cases name
  cases password
  rfl

/-- Credentials are made of two texts that fit, and only of such. -/
theorem Credentials.make_kinds (name password : String) :
    (∃ credentials, make name password = .ok credentials ∧ credentials.name = name ∧
        credentials.password = password) ∨
      ∃ fault, make name password = .error fault ∧
        (16 < (Bytes.ofText name).length ∨ 16 < (Bytes.ofText password).length) := by
  unfold make
  split
  · split
    · exact .inl ⟨_, rfl, rfl, rfl⟩
    · rename_i long
      exact .inr ⟨_, rfl, .inr (Nat.lt_of_not_le long)⟩
  · rename_i long
    exact .inr ⟨_, rfl, .inl (Nat.lt_of_not_le long)⟩

namespace Bulb

/-- A field of a light and the value that it is to have, which fits into the field. -/
structure Update where
  field : MeshField
  value : Bytes
  fits : value.length ≤ fieldLimit
  deriving DecidableEq

namespace Update

variable (update : Update)

/-- The block that a light stages: the value with zeros behind it. -/
def block : Cipher.Block :=
  Bytes.fitted 16 update.value

/-- The text that a light reads from the value: with zeros up to sixteen bytes, and cut at the first
zero. -/
def text : String :=
  Lossy.text ((update.value ++ List.replicate (16 - update.value.length) 0).takeWhile (· ≠ 0))

/-- The frame of an update under a key. -/
def frame (key : SessionKey) : Bytes :=
  Frame.updateFrame key update.field update.value

/-- What a light reads from its stage is the text of the value. -/
theorem fieldText_block : fieldText update.block = update.text := by
  rw [fieldText, block, Bytes.fitted_toList_filled 16 update.value update.fits, text]

end Update

/-! ## Groups -/

/-- All three fields are among some updates. -/
def Complete (group : List Update) : Prop :=
  ∀ field : MeshField, ∃ update ∈ group, update.field = field

instance : DecidablePred Complete := fun group =>
  decidable_of_iff
    (∀ field ∈ [MeshField.name, .password, .longTermKey], ∃ update ∈ group, update.field = field)
    ⟨fun all field => all field (by cases field <;> decide), fun all field _ => all field⟩

/-- The open group once another update arrived: a group that is complete is closed. -/
def gather (group : List Update) (update : Update) : List Update :=
  if Complete (group ++ [update]) then [] else group ++ [update]

/-- The updates since a group was last complete. -/
def openGroup (updates : List Update) : List Update :=
  updates.foldl gather []

/-- What came last of a field. -/
def latest? (field : MeshField) (group : List Update) : Option Update :=
  (group.filter (·.field = field)).getLast?

/-- An update is what came last of its field. -/
theorem latest?_concat (field : MeshField) (group : List Update) (update : Update) :
    latest? field (group ++ [update]) =
      if update.field = field then some update else latest? field group := by
  by_cases same : update.field = field <;> simp [latest?, same]

/-- Something came of a field exactly if there is a last of it. -/
theorem latest?_isSome (field : MeshField) (group : List Update) :
    (∃ update, latest? field group = some update) ↔ ∃ update ∈ group, update.field = field := by
  rw [← Option.isSome_iff_exists, latest?, List.getLast?_isSome, Ne, List.filter_eq_nil_iff]
  simp only [decide_eq_true_eq, not_forall, not_not, exists_prop]

/-- What came last of a field is an update of the field. -/
theorem mem_of_latest? {field : MeshField} {group : List Update} {update : Update}
    (last : latest? field group = some update) : update ∈ group ∧ update.field = field := by
  simpa using List.mem_of_getLast? last

/-- A complete group has at least as many updates as there are fields. -/
theorem Complete.length {group : List Update} (complete : Complete group) : 3 ≤ group.length := by
  have covered : [MeshField.name, .password, .longTermKey] ⊆ group.map Update.field := by
    intro field _
    exact List.mem_map.mpr (complete field)
  have distinct : [MeshField.name, .password, .longTermKey].Nodup := by decide
  simpa using (List.subperm_of_subset distinct covered).length_le

/-- Three updates of distinct fields are complete. -/
theorem complete_of_distinct {group : List Update} (three : group.length = 3)
    (distinct : (group.map Update.field).Nodup) : Complete group := by
  intro field
  have within : group.map Update.field ⊆ [.name, .password, .longTermKey] := by
    intro other _
    cases other <;> decide
  have covered : [MeshField.name, .password, .longTermKey] ⊆ group.map Update.field :=
    ((List.subperm_of_subset distinct within).perm_of_length_le (by simp [three])).symm.subset
  exact List.mem_map.mp (covered (by cases field <;> decide))

/-- Nothing is no complete group. -/
theorem not_complete_nil : ¬Complete [] := by
  decide

/-- A group that is open is not complete. -/
theorem gather_open (group : List Update) (update : Update) :
    ¬Complete (gather group update) := by
  unfold gather
  split
  · exact not_complete_nil
  · assumption

/-! ## What a light does -/

/-- A light behind an attempt at adoption, with the credentials that it had. The stage is empty. Two
texts that fit are adopted; others are refused, and the credentials stay. -/
structure Attempted (name password : Update) (former : Credentials) (after : Bulb) : Prop where
  emptied : after.stage = {}
  adopted : (Bytes.ofText name.text).length ≤ 16 → (Bytes.ofText password.text).length ≤ 16 →
    after.credentials.name = name.text ∧ after.credentials.password = password.text ∧
      after.pairResponse = some [0x07]
  refused : 16 < (Bytes.ofText name.text).length ∨ 16 < (Bytes.ofText password.text).length →
    after.credentials = former ∧ after.pairResponse = some [0x0e]

/-- A light without faults makes the attempt. -/
theorem adopt_attempted (name password : Update) (bulb : Bulb) (willing : bulb.faults = {}) :
    Attempted name password bulb.credentials
      (({ bulb with stage := {} } : Bulb).adopt name.block password.block) := by
  have allowed : ¬({ bulb with stage := {} } : Bulb).faults.rejectMeshUpdate = true := by
    simp [willing]
  rw [adopt, if_neg allowed, Update.fieldText_block, Update.fieldText_block]
  rcases Credentials.make_kinds name.text password.text with
    ⟨credentials, made, isName, isPassword⟩ | ⟨fault, made, long⟩
  · rw [made]
    constructor
    · rfl
    · intro _ _
      exact ⟨isName, isPassword, rfl⟩
    · intro long
      rw [← isName, ← isPassword] at long
      rcases long with long | long
      · exact absurd credentials.name_fits (Nat.not_le_of_lt long)
      · exact absurd credentials.password_fits (Nat.not_le_of_lt long)
  · rw [made]
    constructor
    · rfl
    · intro nameFits passwordFits
      rcases long with long | long
      · exact absurd nameFits (Nat.not_le_of_lt long)
      · exact absurd passwordFits (Nat.not_le_of_lt long)
    · intro _
      exact ⟨rfl, rfl⟩

/-- A field that fills the stage leads to an attempt. -/
theorem stageField_full {field : MeshField} {block name password longTermKey : Cipher.Block}
    {bulb : Bulb}
    (full : bulb.stage.add field block = ⟨some name, some password, some longTermKey⟩) :
    bulb.stageField field block = ({ bulb with stage := {} } : Bulb).adopt name password := by
  simp only [stageField, full]

/-- A field that does not fill it is only staged. -/
theorem stageField_open {field missing : MeshField} {block : Cipher.Block} {bulb : Bulb}
    (lacks : (bulb.stage.add field block).block? missing = none) :
    bulb.stageField field block = { bulb with stage := bulb.stage.add field block } := by
  unfold stageField
  dsimp only
  split
  · rename_i isName isPassword isLongTermKey
    cases missing with
    | name => cases isName.symm.trans lacks
    | password => cases isPassword.symm.trans lacks
    | longTermKey => cases isLongTermKey.symm.trans lacks
  · rfl

/-- A light in calm that holds a key and has an open group on its stage, where the latest value of
each field stands. -/
structure Gathering (key : SessionKey) (group : List Update) (bulb : Bulb) : Prop where
  calm : bulb.Calm
  held : bulb.key = some key
  staged : ∀ field, bulb.stage.block? field = (latest? field group).map Update.block
  unfinished : ¬Complete group

namespace Gathering

variable {key : SessionKey} {group : List Update} {bulb : Bulb}

/-- With another update the stage holds what came last of each field of the longer group. -/
theorem staged_add (gathering : Gathering key group bulb) (update : Update) (field : MeshField) :
    (bulb.stage.add update.field update.block).block? field =
      (latest? field (group ++ [update])).map Update.block := by
  rw [Stage.block?_add, latest?_concat, gathering.staged]
  split <;> rfl

/-- The frame of an update is taken and its field is staged. -/
theorem write_frame (gathering : Gathering key group bulb) (update : Update) :
    (bulb.write .pairing (update.frame key)).2 =
      bulb.countWrite.stageField update.field update.block := by
  rw [gathering.calm.write_eq]
  exact taking_updateFrame bulb gathering.held update.field update.value

/-- The update that completes a group has what came last adopted. -/
theorem completes (gathering : Gathering key group bulb) {update : Update}
    (complete : Complete (group ++ [update])) :
    ∃ name password, latest? .name (group ++ [update]) = some name ∧
      latest? .password (group ++ [update]) = some password ∧
      (bulb.write .pairing (update.frame key)).2 =
        ({ bulb.countWrite with stage := {} } : Bulb).adopt name.block password.block := by
  have present (field : MeshField) := (latest?_isSome field _).mpr (complete field)
  obtain ⟨name, isName⟩ := present .name
  obtain ⟨password, isPassword⟩ := present .password
  obtain ⟨longTermKey, isLongTermKey⟩ := present .longTermKey
  have staged {field : MeshField} {found : Update}
      (last : latest? field (group ++ [update]) = some found) :
      (bulb.stage.add update.field update.block).block? field = some found.block := by
    rw [gathering.staged_add, last, Option.map_some]
  have full : bulb.stage.add update.field update.block =
      ⟨some name.block, some password.block, some longTermKey.block⟩ := by
    rw [← staged isName, ← staged isPassword, ← staged isLongTermKey]
    rfl
  refine ⟨name, password, isName, isPassword, ?_⟩
  rw [gathering.write_frame]
  exact stageField_full full

/-- The update that completes a group leads to an attempt with what came last. -/
theorem attempts (gathering : Gathering key group bulb) {update : Update}
    (complete : Complete (group ++ [update])) :
    ∃ name password, latest? .name (group ++ [update]) = some name ∧
      latest? .password (group ++ [update]) = some password ∧
      Attempted name password bulb.credentials (bulb.write .pairing (update.frame key)).2 := by
  obtain ⟨name, password, isName, isPassword, after⟩ := gathering.completes complete
  refine ⟨name, password, isName, isPassword, ?_⟩
  rw [after]
  exact adopt_attempted name password bulb.countWrite gathering.calm.faults

/-- Any other update is only staged. -/
theorem continues (gathering : Gathering key group bulb) {update : Update}
    (incomplete : ¬Complete (group ++ [update])) :
    (bulb.write .pairing (update.frame key)).2 =
      { bulb.countWrite with stage := bulb.stage.add update.field update.block } := by
  obtain ⟨missing, absent⟩ := not_forall.mp incomplete
  have lacks : (bulb.stage.add update.field update.block).block? missing = none := by
    rw [gathering.staged_add, Option.map_eq_none_iff, Option.eq_none_iff_forall_ne_some]
    intro found last
    exact absent ((latest?_isSome missing _).mp ⟨found, last⟩)
  rw [gathering.write_frame]
  exact stageField_open lacks

/-- Whatever update arrives, the stage holds the open group again. -/
theorem next (gathering : Gathering key group bulb) (update : Update) :
    Gathering key (gather group update) (bulb.write .pairing (update.frame key)).2 := by
  have calm : (bulb.write .pairing (update.frame key)).2.Calm := by
    rw [gathering.calm.write_eq]
    exact gathering.calm.taking .pairing (update.frame key)
  have held : (bulb.write .pairing (update.frame key)).2.key = some key := by
    rw [gathering.write_frame]
    exact (stageField_frame update.field update.block _).2.2.trans gathering.held
  by_cases complete : Complete (group ++ [update])
  · obtain ⟨name, password, -, -, after⟩ := gathering.completes complete
    have closed : gather group update = [] := if_pos complete
    refine ⟨calm, held, ?_, gather_open group update⟩
    intro field
    rw [after, adopt_stage, closed]
    cases field <;> rfl
  · have longer : gather group update = group ++ [update] := if_neg complete
    refine ⟨calm, held, ?_, gather_open group update⟩
    intro field
    rw [gathering.continues complete, longer]
    exact gathering.staged_add update field

end Gathering

/-- The light behind the frames of some updates, first one first. -/
def receiving (key : SessionKey) (updates : List Update) (bulb : Bulb) : Bulb :=
  updates.foldl (fun current update => (current.write .pairing (update.frame key)).2) bulb

/-- The frames of some updates and then those of others. -/
theorem receiving_append (key : SessionKey) (updates later : List Update) (bulb : Bulb) :
    bulb.receiving key (updates ++ later) = (bulb.receiving key updates).receiving key later :=
  List.foldl_append

/-- The stage holds the open group after any number of updates. -/
theorem Gathering.receiving {key : SessionKey} {group : List Update} {bulb : Bulb}
    (gathering : Gathering key group bulb) (updates : List Update) :
    Gathering key (updates.foldl gather group) (bulb.receiving key updates) := by
  induction updates generalizing group bulb with
  | nil => exact gathering
  | cons update later inductionHypothesis => exact inductionHypothesis (gathering.next update)

/-- A light that has accepted a pair request has nothing on its stage. -/
theorem gathering_paired {bulb : Bulb} (calm : bulb.Calm) {request : Bytes}
    {random : SessionRandom}
    (accepted : Frame.decodePairRequest bulb.credentials request = .ok random) :
    ∃ key, Gathering key [] (bulb.write .pairing request).2 := by
  have taken : (bulb.write .pairing request).2 = bulb.countWrite.accepting random := by
    rw [calm.write_eq]
    exact writePairing_accepted accepted
  have still : (bulb.write .pairing request).2.Calm := by
    rw [calm.write_eq]
    exact calm.taking .pairing request
  have held : (bulb.write .pairing request).2.key =
      (bulb.countWrite.accepting random).key := by rw [taken]
  refine ⟨_, still, held, ?_, not_complete_nil⟩
  intro field
  rw [taken]
  cases field <;> rfl

/-! ## Order -/

/-- An attempt leaves no choice of credentials and reply. -/
theorem Attempted.unique {name password : Update} {former : Credentials} {one other : Bulb}
    (first : Attempted name password former one) (second : Attempted name password former other) :
    other.credentials = one.credentials ∧ other.pairResponse = one.pairResponse := by
  by_cases fits : (Bytes.ofText name.text).length ≤ 16 ∧ (Bytes.ofText password.text).length ≤ 16
  · obtain ⟨firstName, firstPassword, firstReply⟩ := first.adopted fits.1 fits.2
    obtain ⟨secondName, secondPassword, secondReply⟩ := second.adopted fits.1 fits.2
    exact ⟨Credentials.eq_of_texts (secondName.trans firstName.symm)
      (secondPassword.trans firstPassword.symm), secondReply.trans firstReply.symm⟩
  · have long : 16 < (Bytes.ofText name.text).length ∨
        16 < (Bytes.ofText password.text).length := by omega
    obtain ⟨firstKept, firstReply⟩ := first.refused long
    obtain ⟨secondKept, secondReply⟩ := second.refused long
    exact ⟨secondKept.trans firstKept.symm, secondReply.trans firstReply.symm⟩

/-- Three updates of distinct fields lead to one attempt, with the name and the password among
them. -/
theorem Gathering.three {key : SessionKey} {bulb : Bulb} (gathering : Gathering key [] bulb)
    {trio : List Update} (three : trio.length = 3) (distinct : (trio.map Update.field).Nodup) :
    ∃ name ∈ trio, ∃ password ∈ trio, name.field = .name ∧ password.field = .password ∧
      Attempted name password bulb.credentials (bulb.receiving key trio) := by
  have complete := complete_of_distinct three distinct
  obtain ⟨first, second, third, rfl⟩ := List.length_eq_three.mp three
  have early : ¬Complete ([] ++ [first]) := fun all => absurd all.length (by simp)
  have late : ¬Complete ([] ++ [first] ++ [second]) := fun all => absurd all.length (by simp)
  have one := gathering.next first
  rw [gather, if_neg early] at one
  have two := one.next second
  rw [gather, if_neg late] at two
  obtain ⟨name, password, isName, isPassword, attempted⟩ := two.attempts complete
  obtain ⟨nameAmong, named⟩ := mem_of_latest? isName
  obtain ⟨passwordAmong, guarded⟩ := mem_of_latest? isPassword
  -- The first two are only staged, so the credentials are still those of the beginning.
  have firstKept := congrArg Bulb.credentials (gathering.continues early)
  have secondKept := congrArg Bulb.credentials (one.continues late)
  rw [secondKept.trans firstKept] at attempted
  exact ⟨name, nameAmong, password, passwordAmong, named, guarded, attempted⟩

/-- Three updates of distinct fields have the same outcome in any order. -/
theorem Gathering.permuted {key : SessionKey} {bulb : Bulb} (gathering : Gathering key [] bulb)
    {trio other : List Update} (three : trio.length = 3)
    (distinct : (trio.map Update.field).Nodup) (permuted : other.Perm trio) :
    (bulb.receiving key other).credentials = (bulb.receiving key trio).credentials ∧
      (bulb.receiving key other).pairResponse = (bulb.receiving key trio).pairResponse ∧
      (bulb.receiving key other).stage = {} ∧ (bulb.receiving key trio).stage = {} := by
  obtain ⟨name, nameIn, password, passwordIn, named, guarded, one⟩ :=
    gathering.three three distinct
  obtain ⟨name', nameIn', password', passwordIn', named', guarded', two⟩ :=
    gathering.three (permuted.length_eq.trans three)
      ((permuted.map Update.field).nodup_iff.mpr distinct)
  have sameName : name' = name :=
    List.inj_on_of_nodup_map distinct (permuted.subset nameIn') nameIn (named'.trans named.symm)
  have samePassword : password' = password :=
    List.inj_on_of_nodup_map distinct (permuted.subset passwordIn') passwordIn
      (guarded'.trans guarded.symm)
  subst sameName samePassword
  obtain ⟨credentials, reply⟩ := one.unique two
  exact ⟨credentials, reply, two.emptied, one.emptied⟩

/-! ## Any number of updates -/

/-- A light that has just accepted a pair request makes one attempt at adoption for each group of
updates, at the update that completes the group and with what came last of name and password in it.
No other update touches the credentials or the pending reply. Three updates of distinct fields that
begin a group may come in any order. -/
theorem updates_grouped {bulb : Bulb} (calm : bulb.Calm) {request : Bytes}
    {random : SessionRandom}
    (accepted : Frame.decodePairRequest bulb.credentials request = .ok random) :
    let paired := (bulb.write .pairing request).2
    ∃ key, paired.key = some key ∧
      (∀ update : Update,
        Frame.encodeMeshUpdate key update.field update.value = .ok (update.frame key)) ∧
      (∀ updates update,
        let before := paired.receiving key updates
        let after := paired.receiving key (updates ++ [update])
        let group := openGroup updates ++ [update]
        (Complete group →
          ∃ name password, latest? .name group = some name ∧
            latest? .password group = some password ∧
            Attempted name password before.credentials after) ∧
        (¬Complete group →
          after.credentials = before.credentials ∧ after.pairResponse = before.pairResponse ∧
            after.stage = before.stage.add update.field update.block)) ∧
      ∀ updates trio other, openGroup updates = [] → trio.length = 3 →
        (trio.map Update.field).Nodup → other.Perm trio →
        let one := paired.receiving key (updates ++ trio)
        let another := paired.receiving key (updates ++ other)
        another.credentials = one.credentials ∧ another.pairResponse = one.pairResponse ∧
          another.stage = {} ∧ one.stage = {} := by
  intro paired
  obtain ⟨key, begun⟩ := gathering_paired calm accepted
  refine ⟨key, begun.held, ?_, ?_, ?_⟩
  · intro update
    exact Frame.encodeMeshUpdate_ok update.fits
  · intro updates update before after group
    have gathering : Gathering key (openGroup updates) before := begun.receiving updates
    have step : after = (before.write .pairing (update.frame key)).2 :=
      receiving_append key updates [update] paired
    rw [step]
    constructor
    · intro complete
      exact gathering.attempts complete
    · intro incomplete
      rw [gathering.continues incomplete]
      exact ⟨rfl, rfl, rfl⟩
  · intro updates trio other closed three distinct permuted
    have gathering : Gathering key (openGroup updates) (paired.receiving key updates) :=
      begun.receiving updates
    rw [closed] at gathering
    intro one another
    have isOne : one = (paired.receiving key updates).receiving key trio :=
      receiving_append key updates trio paired
    have isAnother : another = (paired.receiving key updates).receiving key other :=
      receiving_append key updates other paired
    rw [isOne, isAnother]
    exact gathering.permuted three distinct permuted

/-- A name that grows beyond its field when it is read is refused. The group after it is taken,
with the second of two names. -/
theorem updates_grouped_office :
    let light : Bulb := .ofSettings
      { address := ⟨Vector.replicate 6 0⟩, credentials := ⟨"mesh", "word", by decide, by decide⟩ }
    let paired := (light.write .pairing
      (Frame.encodePairRequest light.credentials ⟨Vector.replicate 8 7⟩)).2
    let doubtful : Update := ⟨.name, List.replicate 6 0xff, by decide⟩
    let attic : Update := ⟨.name, Bytes.ofText "attic", by decide⟩
    let office : Update := ⟨.name, Bytes.ofText "office", by decide⟩
    let word : Update := ⟨.password, Bytes.ofText "5678", by decide⟩
    let zeros : Update := ⟨.longTermKey, [], by decide⟩
    ∃ key, paired.key = some key ∧
      let refusing := paired.receiving key ([doubtful, word] ++ [zeros])
      let taking := paired.receiving key ([doubtful, word, zeros, attic, zeros, office] ++ [word])
      refusing.credentials = (paired.receiving key [doubtful, word]).credentials ∧
        refusing.pairResponse = some [0x0e] ∧ refusing.stage = {} ∧
        taking.credentials.name = "office" ∧ taking.credentials.password = "5678" ∧
        taking.pairResponse = some [0x07] ∧ taking.stage = {} := by
  intro light paired doubtful attic office word zeros
  have calm : light.Calm := ⟨rfl, rfl⟩
  have accepted : Frame.decodePairRequest light.credentials
      (Frame.encodePairRequest light.credentials ⟨Vector.replicate 8 7⟩) =
        .ok ⟨Vector.replicate 8 7⟩ := by
    rw [Frame.decodePairRequest_encode, if_pos rfl]
  obtain ⟨key, held, -, grouped, -⟩ := updates_grouped calm accepted
  obtain ⟨first, early, isFirst, isEarly, refused⟩ :=
    (grouped [doubtful, word] zeros).1 (by decide)
  obtain ⟨second, late, isSecond, isLate, adopted⟩ :=
    (grouped [doubtful, word, zeros, attic, zeros, office] word).1 (by decide)
  have lastFirst : latest? .name (openGroup [doubtful, word] ++ [zeros]) = some doubtful := by
    decide
  have lastSecond : latest? .name (openGroup [doubtful, word, zeros, attic, zeros, office] ++
      [word]) = some office := by decide
  have lastWord : latest? .password (openGroup [doubtful, word, zeros, attic, zeros, office] ++
      [word]) = some word := by decide
  obtain rfl : doubtful = first := Option.some.inj (lastFirst.symm.trans isFirst)
  obtain rfl : office = second := Option.some.inj (lastSecond.symm.trans isSecond)
  obtain rfl : word = late := Option.some.inj (lastWord.symm.trans isLate)
  have isDoubtful : 16 < (Bytes.ofText doubtful.text).length := by decide +kernel
  have isOffice : office.text = "office" := by decide +kernel
  have isWord : word.text = "5678" := by decide +kernel
  obtain ⟨kept, refusal⟩ := refused.refused (.inl isDoubtful)
  obtain ⟨name, password, taken⟩ :=
    adopted.adopted (by rw [isOffice]; decide) (by rw [isWord]; decide)
  exact ⟨key, held, kept, refusal, refused.emptied, name.trans isOffice, password.trans isWord,
    taken, adopted.emptied⟩

end Bulb

end MeshLight
