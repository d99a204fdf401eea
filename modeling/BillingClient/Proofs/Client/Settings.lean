import BillingClient.Client.Config
import BillingClient.Proofs.Json.FaithfulRecord
import BillingClient.Proofs.Json.Reading

/-!
Contract: a configuration is layered setting by setting.

Each setting comes from its own variable, else from the first file that can be used, else from the
default; what is wrong with one variable or one file has no influence on the rest. Main statement:
`settings_areLayered`.
-/

namespace BillingClient.Client

open BillingClient.Json
open BillingClient.Text

/-- The settings of a configuration, in the order of its fields. -/
inductive Setting where
  | serverUrl
  | username
  | password
  | apiKey
  | apiSecret
  | connectTimeout
  | requestTimeout
  | userAgent
deriving DecidableEq, Repr

namespace Setting

def Value : Setting → Type
  | .serverUrl | .username | .password | .userAgent => String
  | .apiKey | .apiSecret => Option String
  | .connectTimeout | .requestTimeout => Nat

/-- The value of a setting in a configuration. -/
def get : (setting : Setting) → Config → setting.Value
  | .serverUrl => Config.serverUrl
  | .username => Config.username
  | .password => Config.password
  | .apiKey => Config.apiKey
  | .apiSecret => Config.apiSecret
  | .connectTimeout => Config.connectTimeoutSeconds
  | .requestTimeout => Config.requestTimeoutSeconds
  | .userAgent => Config.userAgent

/-- Configurations with the same settings are the same. -/
theorem ext_get {left right : Config} (same : ∀ setting, get setting left = get setting right) :
    left = right := by
  obtain ⟨_, _, _, _, _, _, _, _⟩ := left
  cases same .serverUrl
  cases same .username
  cases same .password
  cases same .apiKey
  cases same .apiSecret
  cases same .connectTimeout
  cases same .requestTimeout
  cases same .userAgent
  rfl

/-! ## Variables -/

/-- The variable of the environment for a setting. -/
def variableName? : Setting → Option String
  | .serverUrl => some "KILLBILL_URL"
  | .username => some "KILLBILL_USER"
  | .password => some "KILLBILL_PASSWORD"
  | .apiKey => some "KILLBILL_API_KEY"
  | .apiSecret => some "KILLBILL_API_SECRET"
  | .connectTimeout => some "KILLBILL_CONNECT_TIMEOUT_SECONDS"
  | .requestTimeout => some "KILLBILL_REQUEST_TIMEOUT_SECONDS"
  | .userAgent => none

/-- The value that the text of a variable gives: a timeout has to be a number of 64 bits. -/
def ofText? : (setting : Setting) → String → Option setting.Value
  | .serverUrl, text | .username, text | .password, text | .userAgent, text => some text
  | .apiKey, text | .apiSecret, text => some (some text)
  | .connectTimeout, text | .requestTimeout, text => boundedNumber? maxUnsigned64 text

/-- The value of a setting in an environment. -/
def inEnvironment? (setting : Setting) (environment : String → Option String) :
    Option setting.Value :=
  (setting.variableName?.bind environment).bind setting.ofText?

theorem get_withVariables (config : Config) (environment : String → Option String)
    (setting : Setting) : setting.get (config.withVariables environment) =
      (setting.inEnvironment? environment).getD (setting.get config) := by
  have required (text : Option String) (absent : String) : text.getD absent =
      (text.bind fun present => some present).getD absent := by
    cases text <;> rfl
  have optional (text absent : Option String) : text.or absent =
      (text.bind fun present => some (some present)).getD absent := by
    cases text <;> rfl
  cases setting with
  | serverUrl | username | password => exact required _ _
  | apiKey | apiSecret => exact optional _ _
  | connectTimeout | requestTimeout | userAgent => rfl

end Setting

/-- An environment without one of its variables. -/
def unset (environment : String → Option String) (removed : String) :
    String → Option String :=
  fun name => if name = removed then none else environment name

/-! ## Files -/

namespace Setting

/-- The field of a setting in a file. -/
def field : (setting : Setting) → Json.Field setting.Value
  | .serverUrl => .withDefault "server_url" .string Config.default.serverUrl
  | .username => .withDefault "username" .string Config.default.username
  | .password => .withDefault "password" .string Config.default.password
  | .apiKey => .nullable "api_key" .string
  | .apiSecret => .nullable "api_secret" .string
  | .connectTimeout =>
    .withDefault "connect_timeout_seconds" .unsigned64 Config.default.connectTimeoutSeconds
  | .requestTimeout =>
    .withDefault "request_timeout_seconds" .unsigned64 Config.default.requestTimeoutSeconds
  | .userAgent => .withDefault "user_agent" .string Config.default.userAgent

/-- The settings in the order of their fields. -/
def all : List Setting :=
  [.serverUrl, .username, .password, .apiKey, .apiSecret, .connectTimeout, .requestTimeout,
    .userAgent]

/-- The place of a setting among the fields. -/
def index (setting : Setting) : Nat :=
  all.idxOf setting

/-- The value that the member with the name of a setting gives. -/
def named? (setting : Setting) : Node → Option setting.Value
  | .object members =>
    (Members.named members setting.field.name).head?.bind (setting.field.codec.decode .top)
  | _ => none

/-- The value that the element at the place of a setting gives. -/
def placed? (setting : Setting) : Node → Option setting.Value
  | .array nodes => nodes[setting.index]?.bind (setting.field.codec.decode .top)
  | _ => none

/-- The value of a setting in a file. -/
def inFile? (setting : Setting) (node : Node) : Option setting.Value :=
  (setting.named? node).or (setting.placed? node)

theorem absent_field (setting : Setting) : setting.field.absent = setting.get .default := by
  cases setting <;> rfl

theorem decode_field (setting : Setting) (place : Place) (node : Node) :
    setting.field.codec.decode place node = setting.field.codec.decode .top node := by
  cases setting <;> cases node <;> rfl

/-- The field of a setting with its value in a configuration. -/
def cell (config : Config) (setting : Setting) : WireCell :=
  ⟨⟨setting.field, false⟩, setting.get config⟩

/-- The fields of a configuration are its settings. -/
theorem wireCells_eq (config : Config) :
    Config.record.schema.wireCells false (Config.record.toRow config) = all.map (cell config) :=
  rfl

theorem getElem?_index (setting : Setting) : all[setting.index]? = some setting := by
  cases setting <;> rfl

/-- Whether a file gives a setting: by its name, or by its place. -/
def IsGivenIn (setting : Setting) : Node → Prop
  | .object members => Members.named members setting.field.name ≠ []
  | .array nodes => setting.index < nodes.length
  | _ => False

/-- Whether a file gives a setting the value that it has in a configuration, or does not give it and
it has its default there. -/
def AgreesOn (setting : Setting) (node : Node) (config : Config) : Prop :=
  setting.IsGivenIn node ∧ setting.inFile? node = some (setting.get config) ∨
    ¬ setting.IsGivenIn node ∧ setting.inFile? node = none ∧
      setting.get config = setting.get .default

theorem getElem?_wireCells (row : Config.record.Row) (setting : Setting) :
    (Config.record.schema.wireCells false row)[setting.index]? =
      some (cell (Config.record.ofRow row) setting) := by
  have cells := wireCells_eq (Config.record.ofRow row)
  rw [Config.record.toRow_ofRow] at cells
  rw [cells, List.getElem?_map, getElem?_index, Option.map_some]

theorem agreesOn_object {place : Place} {members : Members} {row : Config.record.Row}
    (decoded : Config.record.schema.decodeMembers place members = some row) (setting : Setting) :
    setting.AgreesOn (.object members) (Config.record.ofRow row) := by
  have given : setting.field.GivenBy place members (setting.get (Config.record.ofRow row)) :=
    (Schema.decodeMembers_eq_some_iff _ false place members row).1 decoded _
      (List.mem_of_getElem? (getElem?_wireCells row setting))
  have inFile : setting.inFile? (.object members) =
      (Members.named members setting.field.name).head?.bind
        (setting.field.codec.decode .top) := Option.or_none
  rcases given with ⟨unnamed, isAbsent⟩ | ⟨node, named, isValue⟩
  · refine .inr ⟨not_not_intro unnamed, ?_, isAbsent.trans setting.absent_field⟩
    rw [inFile, unnamed]
    rfl
  · refine .inl ⟨?_, ?_⟩
    · show Members.named members setting.field.name ≠ []
      rw [named]
      exact List.cons_ne_nil _ _
    · rw [inFile, named, List.head?_cons, Option.bind_some, ← decode_field setting place, isValue]

theorem agreesOn_array {place : Place} {nodes : List Node} {row : Config.record.Row}
    (decoded : Config.record.schema.decodeElements place nodes = some row) (setting : Setting) :
    setting.AgreesOn (.array nodes) (Config.record.ofRow row) := by
  have given : setting.field.GivenAt place nodes setting.index
      (setting.get (Config.record.ofRow row)) :=
    Schema.givenAt_of_decodeElements false decoded (getElem?_wireCells row setting)
  have inFile : setting.inFile? (.array nodes) =
      nodes[setting.index]?.bind (setting.field.codec.decode .top) := Option.none_or
  rcases given with ⟨behind, isAbsent⟩ | ⟨node, placed, isValue⟩
  · refine .inr ⟨?_, ?_, isAbsent.trans setting.absent_field⟩
    · exact Nat.not_lt.2 (List.getElem?_eq_none_iff.1 behind)
    · rw [inFile, behind, Option.bind_none]
  · refine .inl ⟨(List.getElem?_eq_some_iff.1 placed).1, ?_⟩
    rw [inFile, placed, Option.bind_some, ← decode_field setting place, isValue]

/-- A file that is read as a configuration agrees with it on every setting. -/
theorem agreesOn_of_decode {node : Node} {config : Config}
    (decoded : Config.codec.decode .top node = some config) (setting : Setting) :
    setting.AgreesOn node config := by
  obtain ⟨row, rowDecoded, rfl⟩ := Option.map_eq_some_iff.1 decoded
  unfold Schema.decode at rowDecoded
  split at rowDecoded
  · obtain ⟨place, _, rowDecoded⟩ := Option.bind_eq_some_iff.1 rowDecoded
    split at rowDecoded
    · exact agreesOn_object rowDecoded setting
    · cases rowDecoded
  · obtain ⟨place, _, rowDecoded⟩ := Option.bind_eq_some_iff.1 rowDecoded
    exact agreesOn_array rowDecoded setting
  · cases rowDecoded

end Setting

/-! ## Files that can be used -/

/-- What a file holds that can be read, is the JSON of a configuration, and has a web address as its
server URL. -/
def usable? (content : Option (List UInt8)) : Option Node := do
  let bytes ← content.filter (Utf8.decode? · |>.isSome)
  let node ← read bytes
  let config ← Config.codec.decode .top node
  let _ ← config.validate.toOption
  some node

theorem exists_of_usable? {content : Option (List UInt8)} {node : Node}
    (usable : usable? content = some node) :
    ∃ config, Config.codec.decode .top node = some config := by
  obtain ⟨_, _, usable⟩ := Option.bind_eq_some_iff.1 usable
  obtain ⟨found, _, usable⟩ := Option.bind_eq_some_iff.1 usable
  obtain ⟨config, decoded, usable⟩ := Option.bind_eq_some_iff.1 usable
  obtain ⟨_, _, same⟩ := Option.bind_eq_some_iff.1 usable
  cases same
  exact ⟨config, decoded⟩

theorem toOption_ofFile (content : Option (List UInt8)) :
    (Config.ofFile content).toOption = (usable? content).bind (Config.codec.decode .top) := by
  unfold Config.ofFile usable? Codec.ofBytes?
  cases content.filter (Utf8.decode? · |>.isSome) with
  | none => rfl
  | some bytes =>
      dsimp only [Option.bind_eq_bind, Option.bind_some]
      cases read bytes with
      | none => rfl
      | some node =>
          cases decoded : Config.codec.decode .top node with
          | none =>
              simp only [Option.bind_some, decoded]
              rfl
          | some config =>
              simp only [Option.bind_some, decoded]
              cases config.validate with
              | error cause => rfl
              | ok server => exact decoded.symm

/-- The configuration in the first file that can be used. -/
theorem ofFiles_eq (contents : List (Option (List UInt8))) :
    Config.ofFiles contents =
      ((contents.findSome? usable?).bind (Config.codec.decode .top)).getD .default := by
  unfold Config.ofFiles
  congr 1
  induction contents with
  | nil => rfl
  | cons content contents inductionHypothesis =>
      rw [List.findSome?_cons, List.findSome?_cons, toOption_ofFile, inductionHypothesis]
      cases usable : usable? content with
      | none => rfl
      | some node =>
          obtain ⟨config, decoded⟩ := exists_of_usable? usable
          rw [Option.bind_some, decoded]

namespace Setting

theorem get_ofFiles (contents : List (Option (List UInt8))) (setting : Setting) :
    setting.get (Config.ofFiles contents) =
      ((contents.findSome? usable?).bind setting.inFile?).getD (setting.get .default) := by
  rw [ofFiles_eq]
  cases found : contents.findSome? usable? with
  | none => rfl
  | some node =>
      obtain ⟨content, _, usable⟩ := List.exists_of_findSome?_eq_some found
      obtain ⟨config, decoded⟩ := exists_of_usable? usable
      rw [Option.bind_some, Option.bind_some, decoded, Option.getD_some]
      rcases agreesOn_of_decode decoded setting with ⟨_, given⟩ | ⟨_, absent, isDefault⟩
      · rw [given, Option.getD_some]
      · rw [absent, isDefault, Option.getD_none]

/-- Each setting comes from its variable, else from the first file that can be used, else from the
default. -/
theorem get_layered (contents : List (Option (List UInt8))) (environment : String → Option String)
    (setting : Setting) : setting.get (Config.layered contents environment) =
      ((setting.inEnvironment? environment).or
        ((contents.findSome? usable?).bind setting.inFile?)).getD (setting.get .default) := by
  unfold Config.layered
  rw [get_withVariables, get_ofFiles]
  cases setting.inEnvironment? environment <;> rfl

/-- No two settings have one variable. -/
theorem variableName?_inj {left right : Setting} {name : String}
    (isLeft : left.variableName? = some name) (isRight : right.variableName? = some name) :
    left = right := by
  cases left <;> cases right <;> cases isLeft <;> first | rfl | (revert isRight; decide)

/-- A variable that gives its setting no value has no influence at all. -/
theorem layered_unset {setting : Setting} {name : String} {environment : String → Option String}
    (isVariable : setting.variableName? = some name)
    (unreadable : setting.inEnvironment? environment = none)
    (contents : List (Option (List UInt8))) :
    Config.layered contents environment =
      Config.layered contents (unset environment name) := by
  refine ext_get fun other => ?_
  rw [get_layered, get_layered]
  suffices same : other.inEnvironment? (unset environment name) =
      other.inEnvironment? environment by rw [same]
  unfold inEnvironment?
  cases isOther : other.variableName? with
  | none => rfl
  | some otherName =>
      rw [Option.bind_some, Option.bind_some, unset]
      split
      · rename_i same
        subst same
        cases variableName?_inj isVariable isOther
        unfold inEnvironment? at unreadable
        rw [isVariable, Option.bind_some] at unreadable
        rw [unreadable]
        rfl
      · rfl

end Setting

/-- A file that cannot be used has no influence at all. -/
theorem layered_cons {content : Option (List UInt8)} (unusable : usable? content = none)
    (contents : List (Option (List UInt8))) (environment : String → Option String) :
    Config.layered (content :: contents) environment = Config.layered contents environment := by
  unfold Config.layered
  rw [ofFiles_eq, ofFiles_eq, List.findSome?_cons, unusable]

/-! ## Written configurations -/

/-- Whether the timeouts of a configuration are numbers of 64 bits. -/
def Config.HasTimeouts64 (config : Config) : Prop :=
  config.connectTimeoutSeconds ≤ maxUnsigned64 ∧ config.requestTimeoutSeconds ≤ maxUnsigned64

theorem Setting.decode_encode_field {config : Config} (fits : config.HasTimeouts64)
    (setting : Setting) (place : Place) :
    setting.field.codec.decode place (setting.field.codec.encode (setting.get config)).node =
      some (setting.get config) := by
  have optional (value : Option String) : Codec.string.nullable.decode place
      (Codec.string.nullable.encode value).node = some value := by
    cases value with
    | none => rfl
    | some present => exact congrArg (Option.map some) (StringText.string?_of present)
  cases setting with
  | serverUrl | username | password | userAgent => exact StringText.string?_of _
  | apiKey | apiSecret => exact optional _
  | connectTimeout => exact Codec.decode_unsigned64 fits.1 place
  | requestTimeout => exact Codec.decode_unsigned64 fits.2 place

/-- Each setting is written as a member with the name of its field. -/
theorem members_eq (config : Config) : Config.record.members config =
    Setting.all.map fun setting =>
      (setting.field.name, setting.field.codec.encode (setting.get config)) :=
  rfl

/-- A configuration is read from its own text. -/
theorem ofBytes?_text_config {config : Config} (fits : config.HasTimeouts64) :
    Config.codec.ofBytes? (Utf8.encode (Config.codec.text config)) = some config := by
  have unique := Config.record.members_nodup (by decide) config
  have decoded (place : Place) : Config.record.schema.decodeMembers place
      (Value.memberNodes (Config.record.members config)) = some (Config.record.toRow config) := by
    rw [Schema.decodeMembers_eq_some_iff _ false, Setting.wireCells_eq]
    intro cell cellIn
    obtain ⟨setting, settingIn, rfl⟩ := List.mem_map.1 cellIn
    refine .inr ⟨_, Members.named_of_mem unique ?_, setting.decode_encode_field fits place⟩
    rw [members_eq]
    exact List.mem_map_of_mem settingIn
  have inside : Place.top.inner? = some ⟨126, false⟩ := rfl
  have keys := Members.haveKeys_memberNodes (Config.record.members config)
  rw [Codec.ofBytes?_encode_text]
  show (Config.record.schema.decode .top
    (.object (Value.memberNodes (Config.record.members config)))).map _ = _
  rw [Schema.decode, inside, Option.bind_some, keys, if_pos rfl, decoded]
  rfl

/-! ## Layers -/

/-- Each setting comes from its variable, if this is set and for a timeout is a number, else from
the first file that can be used, if it gives the setting by name or by place, else from the
default. A file that cannot be used, and a variable that is no number, have no influence on the
rest. A configuration is read from its own text. -/
theorem settings_areLayered :
    (∀ contents environment (setting : Setting),
      setting.get (Config.layered contents environment) =
        ((setting.inEnvironment? environment).or
          ((contents.findSome? usable?).bind setting.inFile?)).getD (setting.get .default)) ∧
    (∀ content node, usable? content = some node →
      ∃ config, Config.codec.decode .top node = some config ∧
        ∀ setting : Setting, setting.AgreesOn node config) ∧
    (∀ content contents environment, usable? content = none →
      Config.layered (content :: contents) environment = Config.layered contents environment) ∧
    (∀ (setting : Setting) name environment contents, setting.variableName? = some name →
      setting.inEnvironment? environment = none →
        Config.layered contents environment = Config.layered contents (unset environment name)) ∧
    ∀ config : Config, config.HasTimeouts64 →
      Config.codec.ofBytes? (Utf8.encode (Config.codec.text config)) = some config := by
  refine ⟨Setting.get_layered, fun content node usable => ?_,
    fun content contents environment unusable => layered_cons unusable contents environment,
    fun setting name environment contents isVariable unreadable =>
      Setting.layered_unset isVariable unreadable contents,
    fun config fits => ofBytes?_text_config fits⟩
  obtain ⟨config, decoded⟩ := exists_of_usable? usable
  exact ⟨config, decoded, Setting.agreesOn_of_decode decoded⟩

/-- Behind a file with a bad server URL, and beside a variable that is no number, a second file and
another variable count. -/
theorem settings_areLayered_secondFile :
    let first := Utf8.encode "\x7b\"server_url\":\"nope\",\"username\":\"other\"\x7d"
    let second := Utf8.encode "\x7b\"username\":\"u\",\"connect_timeout_seconds\":7\x7d"
    let environment := fun name =>
      if name = "KILLBILL_CONNECT_TIMEOUT_SECONDS" then some "x"
      else if name = "KILLBILL_PASSWORD" then some "p" else none
    let config : Config := { username := "u", password := "p", connectTimeoutSeconds := 7 }
    Config.layered [some first, some second] environment = config ∧
      (∃ node read, usable? (some second) = some node ∧
        Config.codec.decode .top node = some read) ∧
      Config.codec.ofBytes? (Utf8.encode (Config.codec.text config)) = some config := by
  intro first second environment config
  obtain ⟨_, usable, unusable, unreadable, readsBack⟩ := settings_areLayered
  have withoutFirst := unusable (some first) [some second] environment
    (Option.isNone_iff_eq_none.1 (by decide +kernel))
  have withoutVariable := unreadable .connectTimeout "KILLBILL_CONNECT_TIMEOUT_SECONDS" environment
    [some second] rfl (Option.isNone_iff_eq_none.1 (by decide +kernel))
  have rest : Config.layered [some second]
      (unset environment "KILLBILL_CONNECT_TIMEOUT_SECONDS") = config := by
    decide +kernel
  obtain ⟨node, used⟩ := Option.isSome_iff_exists.1
    (show (usable? (some second)).isSome = true by decide +kernel)
  obtain ⟨read, decoded, _⟩ := usable (some second) node used
  exact ⟨withoutFirst.trans (withoutVariable.trans rest), ⟨node, read, used, decoded⟩,
    readsBack config ⟨by decide, by decide⟩⟩

/-- An array of two texts. -/
def unnamedFile : List UInt8 :=
  Utf8.encode "[\"http://a\",\"u\"]"

/-- A file need not name a setting to give it: an array gives settings by their places. -/
theorem settings_areLayered_unnamed :
    ¬ ∀ contents environment (setting : Setting),
      setting.get (Config.layered contents environment) =
        ((setting.inEnvironment? environment).or
          ((contents.findSome? usable?).bind setting.named?)).getD (setting.get .default) := by
  intro byName
  have given : (Config.layered [some unnamedFile, none] fun _ => none).serverUrl = "http://a" := by
    decide +kernel
  have unnamed : ([some unnamedFile, none].findSome? usable?).bind
      Setting.serverUrl.named? = none := by
    have decided : (([some unnamedFile, none].findSome? usable?).bind
        Setting.serverUrl.named? : Option String) = none := by
      decide +kernel
    exact decided
  have same := byName [some unnamedFile, none] (fun _ => none) .serverUrl
  rw [unnamed] at same
  have default : (Config.layered [some unnamedFile, none] fun _ => none).serverUrl =
      Config.default.serverUrl := same
  rw [given] at default
  exact absurd default (by decide)

end BillingClient.Client
