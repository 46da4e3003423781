import ApiRouter.Configuration
import ApiRouter.Proofs.Merging

set_option autoImplicit false

/-! # Precedence of configuration layers

The settings of a run are read from one mapping into which all layers are merged. Each field of them
is nevertheless what the layers have for that field alone: of the command line, the environment, the
project and the user, the first that sets it counts. -/

namespace ApiRouter

/-! ## Reading groups -/

/-- A group is read field by field; without the group every field has its default. -/
theorem Defaults.orDefault_eq_ok {group : Option Value} {d : Defaults}
    (h : Field.orDefault Defaults.ofValue .standard group = .ok d) :
    Field.orDefault Field.bool true (Entries.member? group "coerce_form_params")
        = .ok d.coerceForm ∧
      Field.orDefault Field.bool true (Entries.member? group "path_params") = .ok d.coercePath ∧
      Field.orDefault Field.bool true (Entries.member? group "query_params")
        = .ok d.coerceQuery := by
  cases group with
  | none =>
      cases h
      exact ⟨rfl, rfl, rfl⟩
  | some v =>
      cases v with
      | map m =>
          obtain ⟨withPath, query, hwithPath, hquery, rfl⟩ := Checked.seq_eq_ok.1 h
          obtain ⟨withForm, path, hwithForm, hpath, rfl⟩ := Checked.seq_eq_ok.1 hwithPath
          obtain ⟨form, hform, rfl⟩ := Checked.map_eq_ok.1 hwithForm
          exact ⟨Field.withDefault_eq_ok.1 hform, Field.withDefault_eq_ok.1 hpath,
            Field.withDefault_eq_ok.1 hquery⟩
      | _ => cases h

theorem CheckOptions.orDefault_eq_ok {group : Option Value} {o : CheckOptions}
    (h : Field.orDefault CheckOptions.ofValue .standard group = .ok o) :
    Field.orDefault (Field.orNull Field.bool) none
        (Entries.member? group "coerce_form_params") = .ok o.coerceForm ∧
      Field.orDefault (Field.orNull Field.bool) none
        (Entries.member? group "coerce_path_params") = .ok o.coercePath ∧
      Field.orDefault (Field.orNull Field.bool) none
        (Entries.member? group "coerce_query_params") = .ok o.coerceQuery ∧
      Field.orDefault Field.bool true (Entries.member? group "check_content_type")
        = .ok o.checkContentType ∧
      Field.orDefault Field.bool true (Entries.member? group "check_header")
        = .ok o.checkHeaders := by
  cases group with
  | none =>
      cases h
      exact ⟨rfl, rfl, rfl, rfl, rfl⟩
  | some v =>
      cases v with
      | map m =>
          obtain ⟨withType, headers, hwithType, hheaders, rfl⟩ := Checked.seq_eq_ok.1 h
          obtain ⟨withQuery, type, hwithQuery, htype, rfl⟩ := Checked.seq_eq_ok.1 hwithType
          obtain ⟨withPath, query, hwithPath, hquery, rfl⟩ := Checked.seq_eq_ok.1 hwithQuery
          obtain ⟨withForm, path, hwithForm, hpath, rfl⟩ := Checked.seq_eq_ok.1 hwithPath
          obtain ⟨form, hform, rfl⟩ := Checked.map_eq_ok.1 hwithForm
          exact ⟨Field.withDefault_eq_ok.1 hform, Field.withDefault_eq_ok.1 hpath,
            Field.withDefault_eq_ok.1 hquery, Field.withDefault_eq_ok.1 htype,
            Field.withDefault_eq_ok.1 hheaders⟩
      | _ => cases h

theorem Settings.ofEntries_eq_ok {m : Entries} {s : Settings} (h : Settings.ofEntries m = .ok s) :
    Field.orDefault Field.text Settings.standardDriver (Entries.find? m "driver") = .ok s.driver ∧
      Field.orDefault (Field.orNull Field.text) none (Entries.find? m "prefix") = .ok s.mount ∧
      Field.orDefault Defaults.ofValue .standard (Entries.find? m "driver_config")
        = .ok s.defaults ∧
      Field.orDefault CheckOptions.ofValue .standard (Entries.find? m "validator")
        = .ok s.options := by
  obtain ⟨withDefaults, options, hwithDefaults, hoptions, rfl⟩ := Checked.seq_eq_ok.1 h
  obtain ⟨withMount, defaults, hwithMount, hdefaults, rfl⟩ := Checked.seq_eq_ok.1 hwithDefaults
  obtain ⟨withDriver, mount, hwithDriver, hmount, rfl⟩ := Checked.seq_eq_ok.1 hwithMount
  obtain ⟨driver, hdriver, rfl⟩ := Checked.map_eq_ok.1 hwithDriver
  exact ⟨Field.withDefault_eq_ok.1 hdriver, Field.withDefault_eq_ok.1 hmount,
    Field.withDefault_eq_ok.1 hdefaults, Field.withDefault_eq_ok.1 hoptions⟩

namespace Configuration

/-! ## Files -/

/-- The fields of the settings that are groups of fields. -/
def groups : List String := ["driver_config", "validator"]

/-- Where a layer has a group of fields, it is a mapping. -/
def HasGroups (layer : Entries) : Prop :=
  ∀ group ∈ groups, ∀ v ∈ Entries.find? layer group, v.isMap = true

instance (layer : Entries) : Decidable (HasGroups layer) :=
  inferInstanceAs (Decidable (∀ group ∈ groups, ∀ v ∈ Entries.find? layer group, v.isMap = true))

variable {files : Files} {label path : String} {layer : Entries}

/-- The layer in a file is a value of a JSON text. -/
theorem isRead_of_fileLayer (h : fileLayer files label path = .ok (some layer)) :
    Json.IsRead (.map layer) := by
  unfold fileLayer at h
  obtain ⟨source, -, h⟩ := Outcome.bind_eq_ok.1 h
  simp only at h
  split at h
  · cases h
  · cases h
  · cases h
  · split at h
    · next hread =>
        cases h
        exact Json.isRead_of_read hread
    · cases h
    · cases h
    · cases h
    · cases h

/-- The layer in a file holds each key once, and so do its groups. -/
structure Legible (layer : Entries) : Prop where
  distinct : Ordered.Distinct layer
  isGroup : ∀ group ∈ groups, Entries.IsGroup (Entries.find? layer group)

theorem legible_of_isRead (h : Json.IsRead (.map layer)) (hgroups : HasGroups layer) :
    Legible layer where
  distinct := h.map.1
  isGroup group hgroup v hv := by
    have hmem : v ∈ Ordered.values layer :=
      List.mem_map.2 ⟨_, Ordered.mem_of_find? (Scalar.rigid_text group) hv, rfl⟩
    have hread : Json.IsRead v := h.map.2.2 v hmem
    cases v with
    | map m => exact ⟨m, rfl, hread.map.1⟩
    | _ => cases hgroups group hgroup _ hv

theorem legible_nil : Legible [] where
  distinct := List.Pairwise.nil
  isGroup _ _ := Entries.isGroup_none

theorem legible_getD {layer : Option Entries}
    (h : ∀ m, layer = some m → Json.IsRead (.map m) ∧ HasGroups m) : Legible (layer.getD []) := by
  cases layer with
  | none => exact legible_nil
  | some m => exact legible_of_isRead (h m rfl).1 (h m rfl).2

/-! ## The environment -/

variable {w : Workspace} {fields environment : Entries}

/-- The truth value that the environment gives, if the variable is set. -/
def switched (w : Workspace) (name : String) : Except Failure (Option Bool) :=
  match w.setting? name with
  | none => .ok none
  | some value => some <$> readSwitch name value

theorem keys_switchFields {ss : List (String × String)} (h : switchFields w ss = .ok fields) :
    (Ordered.keys fields).Sublist (ss.map fun s => .text s.2) := by
  induction ss generalizing fields with
  | nil =>
      rw [switchFields] at h
      cases h
      exact .slnil
  | cons s rest ih =>
      obtain ⟨name, field⟩ := s
      rw [switchFields] at h
      split at h
      · exact (ih h).cons _
      · obtain ⟨b, -, h⟩ := Outcome.bind_eq_ok.1 h
        obtain ⟨more, hmore, h⟩ := Outcome.bind_eq_ok.1 h
        cases h
        exact (ih hmore).cons_cons _

theorem find?_switchFields_of_not_mem {ss : List (String × String)} {field : String}
    (h : switchFields w ss = .ok fields) (hnew : field ∉ ss.map Prod.snd) :
    Entries.find? fields field = none := by
  by_contra hfound
  obtain ⟨v, hv⟩ := Option.ne_none_iff_exists'.1 hfound
  have hkey : Scalar.text field ∈ Ordered.keys fields :=
    List.mem_map.2 ⟨_, Ordered.mem_of_find? (Scalar.rigid_text field) hv, rfl⟩
  obtain ⟨s, hs, heq⟩ := List.mem_map.1 ((keys_switchFields h).subset hkey)
  exact hnew (List.mem_map.2 ⟨s, hs, Scalar.text.inj heq⟩)

/-- A switch that is set gives the field that it is for, and no other switch gives that. -/
theorem find?_switchFields {ss : List (String × String)} (hdistinct : (ss.map Prod.snd).Nodup)
    (h : switchFields w ss = .ok fields) {name field : String} (hs : (name, field) ∈ ss) :
    ∃ value, switched w name = .ok value ∧
      Entries.find? fields field = value.map Value.bool := by
  induction ss generalizing fields with
  | nil => cases hs
  | cons s rest ih =>
      obtain ⟨name', field'⟩ := s
      obtain ⟨hnew, hdistinct⟩ := List.nodup_cons.1 hdistinct
      rw [switchFields] at h
      rcases List.mem_cons.1 hs with heq | hrest
      · cases heq
        split at h
        · next hset =>
            -- the variable is not set, and no later switch is for this field
            exact ⟨none, by simp only [switched, hset], find?_switchFields_of_not_mem h hnew⟩
        · next value hset =>
            obtain ⟨b, hb, h⟩ := Outcome.bind_eq_ok.1 h
            obtain ⟨more, -, h⟩ := Outcome.bind_eq_ok.1 h
            cases h
            refine ⟨some b, by simp only [switched, hset, hb, Outcome.map_ok], ?_⟩
            exact if_pos ((Scalar.rigid_text field).beq_left _ |>.2 rfl)
      · split at h
        · exact ih hdistinct h hrest
        · obtain ⟨b, -, h⟩ := Outcome.bind_eq_ok.1 h
          obtain ⟨more, hmore, h⟩ := Outcome.bind_eq_ok.1 h
          cases h
          obtain ⟨value, hvalue, hfind⟩ := ih hdistinct hmore hrest
          -- the field of the first switch is another one, so it does not stand before this one
          have hother : field' ≠ field := fun heq => hnew (heq ▸ List.mem_map.2 ⟨_, hrest, rfl⟩)
          refine ⟨value, hvalue, hfind ▸ if_neg fun hkey => hother ?_⟩
          exact Scalar.text.inj ((Scalar.rigid_text field).beq_left _ |>.1 hkey)

theorem distinct_switchFields {ss : List (String × String)} (hdistinct : (ss.map Prod.snd).Nodup)
    (h : switchFields w ss = .ok fields) : Ordered.Distinct fields := by
  have hall : (ss.map fun s => Scalar.text s.2).Pairwise fun k l => (k == l) = false := by
    have hpairs := List.pairwise_map.1 hdistinct
    refine List.pairwise_map.2 (hpairs.imp fun {s t} hne => Bool.eq_false_iff.2 fun hbeq => hne ?_)
    exact Scalar.text.inj ((Scalar.rigid_text t.2).beq_left _ |>.1 hbeq)
  exact hall.sublist (keys_switchFields h)

theorem nodup_switches : (switches.map Prod.snd).Nodup := by
  decide

/-- A mapping of a mount point and a group of switches, where there are such. -/
def layerOf (mount group : Option Value) : Entries :=
  (mount.map fun v => (Scalar.text "prefix", v)).toList ++
    (group.map fun v => (Scalar.text "driver_config", v)).toList

section

variable (mount group : Option Value)

theorem distinct_layerOf : Ordered.Distinct (layerOf mount group) := by
  cases mount with
  | none =>
      cases group with
      | none => exact .nil
      | some g => exact List.pairwise_singleton ..
  | some m =>
      cases group with
      | none => exact List.pairwise_singleton ..
      | some g => exact List.pairwise_pair.2 rfl

theorem find?_layerOf_mount : Entries.find? (layerOf mount group) "prefix" = mount := by
  cases mount <;> cases group <;> rfl

theorem find?_layerOf_group : Entries.find? (layerOf mount group) "driver_config" = group := by
  cases mount <;> cases group <;> rfl

theorem find?_layerOf_driver : Entries.find? (layerOf mount group) "driver" = none := by
  cases mount <;> cases group <;> rfl

theorem find?_layerOf_validator : Entries.find? (layerOf mount group) "validator" = none := by
  cases mount <;> cases group <;> rfl

end

/-- The group of the fields that switches set, if any are set. -/
def groupOf (fields : Entries) : Option Value :=
  if fields.isEmpty then none else some (.map fields)

theorem member?_groupOf (fields : Entries) (field : String) :
    Entries.member? (groupOf fields) field = Entries.find? fields field := by
  unfold groupOf
  split
  · next hempty =>
      rw [List.isEmpty_iff.1 hempty]
      rfl
  · rfl

theorem isGroup_groupOf (h : Ordered.Distinct fields) : Entries.IsGroup (groupOf fields) := by
  intro v hv
  unfold groupOf at hv
  split at hv
  · cases hv
  · cases hv
    exact ⟨fields, rfl, h⟩

theorem environmentLayer_eq_ok (h : environmentLayer w = .ok environment) :
    ∃ fields, switchFields w switches = .ok fields ∧
      environment = layerOf ((w.setting? "SPECROUTE_PREFIX").map .text) (groupOf fields) := by
  unfold environmentLayer at h
  obtain ⟨fields, hfields, h⟩ := Outcome.bind_eq_ok.1 h
  refine ⟨fields, hfields, (Except.ok.inj h).symm.trans ?_⟩
  unfold groupOf
  cases hset : w.setting? "SPECROUTE_PREFIX" with
  | none =>
      split
      · rfl
      · rfl
  | some mount =>
      split
      · rfl
      · rfl

/-! ## All layers -/

variable {overrides : Overrides} {user project : Option Entries} {merged : Entries}

theorem find?_overlay (m : Entries) (field q : String) (value : Option String) :
    Entries.find? (overlay m field value) q
      = Value.laid (if field = q then value.map .text else none) (Entries.find? m q) := by
  cases value with
  | none =>
      rw [overlay, Option.map_none, ite_self]
      rfl
  | some s =>
      rw [overlay, Entries.find?_insert]
      split
      · exact (Value.laid_text s _).symm
      · rfl

/-- What the merged layers have for a field: that of the command line laid on that of the
    environment, and so on down to the user's. -/
theorem layered_eq_ok (h : layered w overrides = .ok merged)
    (hgroups : ∀ layer, userLayer w = .ok (some layer) ∨ projectLayer w = .ok (some layer) →
      HasGroups layer) :
    ∃ user project fields, userLayer w = .ok user ∧ projectLayer w = .ok project ∧
      switchFields w switches = .ok fields ∧
      Legible (user.getD []) ∧ Legible (project.getD []) ∧
      ∀ q, Entries.find? merged q = Value.overlaid
        [if "driver" = q then overrides.driver.map .text else none,
          if "prefix" = q then overrides.mount.map .text else none,
          Entries.find? (layerOf ((w.setting? "SPECROUTE_PREFIX").map .text) (groupOf fields)) q,
          Entries.find? (project.getD []) q, Entries.find? (user.getD []) q] := by
  unfold layered at h
  obtain ⟨user, huser, h⟩ := Outcome.bind_eq_ok.1 h
  obtain ⟨project, hproject, h⟩ := Outcome.bind_eq_ok.1 h
  obtain ⟨environment, henvironment, h⟩ := Outcome.bind_eq_ok.1 h
  obtain ⟨fields, hfields, rfl⟩ := environmentLayer_eq_ok henvironment
  cases h
  have huserLegible : Legible (user.getD []) := legible_getD fun m hm => by
    subst hm
    refine ⟨?_, hgroups m (.inl huser)⟩
    obtain ⟨directory, -, huser⟩ := Outcome.bind_eq_ok.1 huser
    obtain ⟨w', -, huser⟩ := Outcome.bind_eq_ok.1 huser
    exact isRead_of_fileLayer huser
  have hprojectLegible : Legible (project.getD []) := legible_getD fun m hm => by
    subst hm
    exact ⟨isRead_of_fileLayer hproject, hgroups m (.inr hproject)⟩
  refine ⟨user, project, fields, huser, hproject, hfields, huserLegible, hprojectLegible,
    fun q => ?_⟩
  rw [find?_overlay, find?_overlay, Entries.find?_merge (distinct_layerOf ..),
    Entries.find?_merge hprojectLegible.distinct]
  simp only [Value.overlaid, Value.laid_none_right]

/-! ## Every field by itself -/

/-- What a layer has in a group. -/
def inGroup (layer : Entries) (group field : String) : Option Value :=
  Entries.member? (Entries.find? layer group) field

/-- The value of a flag for the compiler: that of its variable, if it is set, else that of the
    project, else the user's, else true. -/
def flag (w : Workspace) (user project : Entries) (name field : String) : Except Failure Bool := do
  let value ← switched w name
  (Field.ofLayers Field.bool true [value.map .bool, inGroup project "driver_config" field,
    inGroup user "driver_config" field]).toExcept

/-- The value of an option for checking requests: that of the project, else the user's, else the
    default. -/
def option {α : Type} (read : Value → Checked α) (default : α) (user project : Entries)
    (field : String) : Checked α :=
  Field.ofLayers read default [inGroup project "validator" field, inGroup user "validator" field]

/-- The settings follow the layers: each field has the value of the highest layer that sets it, and
    nothing that a layer has for another field counts. -/
structure Follows (settings : Settings) (w : Workspace) (overrides : Overrides)
    (user project : Entries) : Prop where
  driver : Field.ofLayers Field.text Settings.standardDriver
    [overrides.driver.map .text, Entries.find? project "driver", Entries.find? user "driver"]
      = .ok settings.driver
  mount : Field.ofLayers (Field.orNull Field.text) none
    [overrides.mount.map .text, (w.setting? "SPECROUTE_PREFIX").map .text,
      Entries.find? project "prefix", Entries.find? user "prefix"] = .ok settings.mount
  coerceForm : flag w user project "SPECROUTE_COERCE_FORM_PARAMS" "coerce_form_params"
    = .ok settings.defaults.coerceForm
  coercePath : flag w user project "SPECROUTE_PATH_PARAMS" "path_params"
    = .ok settings.defaults.coercePath
  coerceQuery : flag w user project "SPECROUTE_QUERY_PARAMS" "query_params"
    = .ok settings.defaults.coerceQuery
  formOption : option (Field.orNull Field.bool) none user project "coerce_form_params"
    = .ok settings.options.coerceForm
  pathOption : option (Field.orNull Field.bool) none user project "coerce_path_params"
    = .ok settings.options.coercePath
  queryOption : option (Field.orNull Field.bool) none user project "coerce_query_params"
    = .ok settings.options.coerceQuery
  contentTypeOption : option Field.bool true user project "check_content_type"
    = .ok settings.options.checkContentType
  headerOption : option Field.bool true user project "check_header"
    = .ok settings.options.checkHeaders

section

variable {user project : Entries} (huser : Legible user) (hproject : Legible project)

include huser hproject

/-- A flag in the merged groups is the one that its variable gives, or that of the highest file. -/
theorem flag_eq_ok (hfields : switchFields w switches = .ok fields) {name field : String}
    (hs : (name, field) ∈ switches) {b : Bool}
    (h : Field.orDefault Field.bool true (Entries.member? (Value.overlaid [groupOf fields,
      Entries.find? project "driver_config", Entries.find? user "driver_config"]) field) = .ok b) :
    flag w user project name field = .ok b := by
  have hdistinct : Ordered.Distinct fields := distinct_switchFields nodup_switches hfields
  have hlayers : ∀ g ∈ [groupOf fields, Entries.find? project "driver_config",
      Entries.find? user "driver_config"], Entries.IsGroup g :=
    List.forall_mem_cons.2 ⟨isGroup_groupOf hdistinct, List.forall_mem_cons.2
      ⟨hproject.isGroup _ (by decide), List.forall_mem_singleton.2 (huser.isGroup _ (by decide))⟩⟩
  obtain ⟨value, hvalue, hfind⟩ := find?_switchFields nodup_switches hfields hs
  -- a member of the merged groups is laid together from those of the groups
  rw [Entries.member?_overlaid hlayers, List.map_cons, member?_groupOf, hfind] at h
  rw [flag, hvalue, Outcome.ok_bind, Checked.toExcept_eq_ok]
  exact Field.ofLayers_of_overlaid (by rintro m ⟨⟩) h

/-- An option in the merged groups is that of the highest file. -/
theorem option_eq_ok {α : Type} {read : Value → Checked α} {default a : α} {field : String}
    (hmap : ∀ m, read (.map m) ≠ .ok a)
    (h : Field.orDefault read default (Entries.member? (Value.overlaid
      [Entries.find? project "validator", Entries.find? user "validator"]) field) = .ok a) :
    option read default user project field = .ok a := by
  have hlayers : ∀ g ∈ [Entries.find? project "validator", Entries.find? user "validator"],
      Entries.IsGroup g :=
    List.forall_mem_cons.2
      ⟨hproject.isGroup _ (by decide), List.forall_mem_singleton.2 (huser.isGroup _ (by decide))⟩
  rw [Entries.member?_overlaid hlayers] at h
  exact Field.ofLayers_of_overlaid hmap h

end

/-- **Each field of the settings has the value of the highest layer that sets it.** When the groups
    in the files are mappings and the settings can be resolved, the mount point and the name of the
    document format come from the command line, or else from the environment, the project, the user,
    or else they have their default; and so does every flag in a group by itself, whatever the
    layers above have for the others in that group. -/
theorem resolve_follows (hgroups : ∀ layer,
      userLayer w = .ok (some layer) ∨ projectLayer w = .ok (some layer) → HasGroups layer)
    {settings : Settings} (h : resolve w overrides = .ok settings) :
    ∃ user project, userLayer w = .ok user ∧ projectLayer w = .ok project ∧
      Follows settings w overrides (user.getD []) (project.getD []) := by
  unfold resolve at h
  obtain ⟨merged, hmerged, h⟩ := Outcome.bind_eq_ok.1 h
  have hsettings : Settings.ofEntries merged = .ok settings := by
    split at h
    · next hread =>
        cases h
        exact Checked.toExcept_eq_ok.1 hread
    · cases h
    · cases h
  obtain ⟨user, project, fields, huser, hproject, hfields, hlegibleUser, hlegibleProject, hfind⟩ :=
    layered_eq_ok hmerged hgroups
  obtain ⟨hdriver, hmount, hdefaults, hoptions⟩ := Settings.ofEntries_eq_ok hsettings
  rw [hfind "driver", find?_layerOf_driver, if_pos rfl, if_neg (by decide)] at hdriver
  rw [hfind "prefix", find?_layerOf_mount, if_neg (by decide), if_pos rfl] at hmount
  rw [hfind "driver_config", find?_layerOf_group, if_neg (by decide), if_neg (by decide)]
    at hdefaults
  rw [hfind "validator", find?_layerOf_validator, if_neg (by decide), if_neg (by decide)]
    at hoptions
  obtain ⟨hform, hpath, hquery⟩ := Defaults.orDefault_eq_ok hdefaults
  obtain ⟨hformOption, hpathOption, hqueryOption, htypeOption, hheaderOption⟩ :=
    CheckOptions.orDefault_eq_ok hoptions
  refine ⟨user, project, huser, hproject, ?_⟩
  exact
    { driver := Field.ofLayers_of_overlaid (by rintro m ⟨⟩) hdriver
      mount := Field.ofLayers_of_overlaid (by rintro m ⟨⟩) hmount
      coerceForm := flag_eq_ok hlegibleUser hlegibleProject hfields (by decide) hform
      coercePath := flag_eq_ok hlegibleUser hlegibleProject hfields (by decide) hpath
      coerceQuery := flag_eq_ok hlegibleUser hlegibleProject hfields (by decide) hquery
      formOption := option_eq_ok hlegibleUser hlegibleProject (by rintro m ⟨⟩) hformOption
      pathOption := option_eq_ok hlegibleUser hlegibleProject (by rintro m ⟨⟩) hpathOption
      queryOption := option_eq_ok hlegibleUser hlegibleProject (by rintro m ⟨⟩) hqueryOption
      contentTypeOption := option_eq_ok hlegibleUser hlegibleProject (by rintro m ⟨⟩) htypeOption
      headerOption := option_eq_ok hlegibleUser hlegibleProject (by rintro m ⟨⟩) hheaderOption }

/-- Surroundings in which the environment, the project and the user each turn one flag off; the
    project has null for the mount point, and the environment an empty one. -/
def layeredWorkspace : Workspace where
  files := ⟨[],
    [(["home", ".specroute", "config.json"], .file (.text
      ("\x7b\"prefix\":\"/user\",\"driver_config\":\x7b\"path_params\":\"no\"\x7d," ++
        "\"validator\":\x7b\"check_header\":false,\"check_content_type\":false\x7d\x7d"))),
      (["specroute.json"], .file (.text
        ("\x7b\"prefix\":null,\"driver_config\":\x7b\"query_params\":0\x7d," ++
          "\"validator\":\x7b\"check_content_type\":true\x7d\x7d")))]⟩
  stdin := .text ""
  fetch := fun _ => .unreachable ""
  environment := [("SPECROUTE_PREFIX", ""), ("SPECROUTE_COERCE_FORM_PARAMS", " Off ")]
  accountHome := "/home"
  system := "Darwin"
  moment := ""

/-- Each of these flags is off, and the mount point of the user does not count. -/
theorem resolve_follows_layered :
    (∀ layer, userLayer layeredWorkspace = .ok (some layer) ∨
        projectLayer layeredWorkspace = .ok (some layer) → HasGroups layer) ∧
      resolve layeredWorkspace ⟨none, none⟩
        = .ok ⟨"open_api_2", none, ⟨false, false, false⟩, ⟨none, none, none, true, false⟩⟩ ∧
      ∃ user project, userLayer layeredWorkspace = .ok user ∧
        projectLayer layeredWorkspace = .ok project ∧
        Follows ⟨"open_api_2", none, ⟨false, false, false⟩, ⟨none, none, none, true, false⟩⟩
          layeredWorkspace ⟨none, none⟩ (user.getD []) (project.getD []) := by
  have huser : userLayer layeredWorkspace = .ok (some
      [(.text "prefix", .text "/user"),
        (.text "driver_config", .object [("path_params", .text "no")]),
        (.text "validator", .object
          [("check_header", .bool false), ("check_content_type", .bool false)])]) := by
    decide +kernel
  have hproject : projectLayer layeredWorkspace = .ok (some
      [(.text "prefix", .null), (.text "driver_config", .object [("query_params", .int 0)]),
        (.text "validator", .object [("check_content_type", .bool true)])]) := by
    decide +kernel
  have hgroups : ∀ layer, userLayer layeredWorkspace = .ok (some layer) ∨
      projectLayer layeredWorkspace = .ok (some layer) → HasGroups layer := by
    rintro layer (h | h)
    · rw [huser] at h
      cases h
      decide +kernel
    · rw [hproject] at h
      cases h
      decide +kernel
  have hresolve : resolve layeredWorkspace ⟨none, none⟩
      = .ok ⟨"open_api_2", none, ⟨false, false, false⟩, ⟨none, none, none, true, false⟩⟩ := by
    rw [resolve, layered, huser, hproject]
    decide +kernel
  exact ⟨hgroups, hresolve, resolve_follows hgroups hresolve⟩

end Configuration

end ApiRouter
