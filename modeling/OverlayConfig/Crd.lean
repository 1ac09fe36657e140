import OverlayConfig.Json.Value
import OverlayConfig.Spec.Basic
import OverlayConfig.Yaml.Writer
/-!
Schemas of JSON values, and the definition of the resource that holds a network with the schema of
the network. A record accepts fields that it does not know.
-/
set_option autoImplicit false

namespace OverlayConfig

mutual
/-- A schema: what it says about a value, whether null is accepted, and the kind of the value. -/
inductive Schema where
  | mk (description : Option String) (nullable : Bool) (default : Option Json) (kind : SchemaKind)

inductive SchemaKind where
  | text
  | flag
  | uint32
  | list (items : Schema)
  | table (values : Schema)
  | record (title : Option String) (properties : List (String × Schema)) (required : List String)
end

namespace Schema

def plain (kind : SchemaKind) : Schema := .mk none false none kind

def described (description : String) (kind : SchemaKind) : Schema :=
  .mk (some description) false none kind

def nullable (description : String) (kind : SchemaKind) : Schema :=
  .mk (some description) true none kind

def defaulted (description : String) (default : Json) (kind : SchemaKind) : Schema :=
  .mk (some description) false (some default) kind

def kind : Schema → SchemaKind
  | .mk _ _ _ kind => kind

def acceptsNull : Schema → Bool
  | .mk _ nullable _ _ => nullable

/-- A field that is there only if it has a value. -/
def member (key : String) : Option Json → List (String × Json)
  | none => []
  | some v => [(key, v)]

mutual
def toJson : Schema → Json
  | .mk description nullable default kind =>
    let mark := if nullable then some (.bool true) else none
    let shared := member "default" default ++ member "description" (description.map .string)
    match kind with
    | .text => .object (shared ++ member "nullable" mark ++ [("type", .string "string")])
    | .flag => .object (shared ++ member "nullable" mark ++ [("type", .string "boolean")])
    | .uint32 =>
      .object (shared ++ [("format", .string "uint32"), ("minimum", .number (.double .zero))]
        ++ member "nullable" mark ++ [("type", .string "integer")])
    | .list items =>
      .object (shared ++ [("items", items.toJson)] ++ member "nullable" mark
        ++ [("type", .string "array")])
    | .table values =>
      .object (("additionalProperties", values.toJson) :: shared ++ member "nullable" mark
        ++ [("type", .string "object")])
    | .record title properties required =>
      let names := if required.isEmpty then none else some (.array (required.map .string))
      .object (shared ++ member "nullable" mark
        ++ [("properties", .object (propertiesToJson properties))] ++ member "required" names
        ++ member "title" (title.map .string) ++ [("type", .string "object")])

def propertiesToJson : List (String × Schema) → List (String × Json)
  | [] => []
  | (name, schema) :: rest => (name, schema.toJson) :: propertiesToJson rest
end

def acceptsLeaf (schema : Schema) (v : Json) : Bool :=
  match v, schema.kind with
  | .null, _ => schema.acceptsNull
  | .bool _, .flag | .string _, .text => true
  | .number (.int n), .uint32 => 0 ≤ n && n < 4294967296
  | _, _ => false

mutual
def accepts : Json → Schema → Bool
  | .array items, schema =>
    match schema.kind with
    | .list item => acceptsItems item items
    | _ => false
  | .object fields, schema =>
    match schema.kind with
    | .table value => acceptsValues value fields
    | .record _ properties required =>
      required.all (fun name => Fields.contains name fields) && acceptsFields properties fields
    | _ => false
  | v, schema => acceptsLeaf schema v

def acceptsItems (item : Schema) : List Json → Bool
  | [] => true
  | v :: rest => accepts v item && acceptsItems item rest

def acceptsValues (value : Schema) : List (String × Json) → Bool
  | [] => true
  | (_, v) :: rest => accepts v value && acceptsValues value rest

def acceptsFields (properties : List (String × Schema)) : List (String × Json) → Bool
  | [] => true
  | (name, v) :: rest =>
    (match Fields.get? name properties with
      | none => true
      | some schema => accepts v schema) && acceptsFields properties rest
end

end Schema

namespace Crd

def clusterNetworkSchema : Schema :=
  .described "A pod network range and the size of the per-node subnets cut from it"
    (.record none
      [("cidr", .described "Pod network CIDR (e.g., \"10.128.0.0/14\")" .text),
        ("hostSubnetLength", .described "Number of host bits in each node subnet" .uint32)]
      ["cidr", "hostSubnetLength"])

def sdnSchema : Schema :=
  .nullable "OpenShift SDN payload; only valid when \x60type\x60 is \"OpenShiftSDN\""
    (.record none
      [("mode", .defaulted "Isolation mode" (.string Mode.networkPolicy.text) .text),
        ("mtu", .nullable "MTU of the overlay interface" .uint32),
        ("useExternalOpenvswitch",
          .nullable "When true, openvswitch is provided by the host and not deployed" .flag),
        ("vxlanPort", .nullable "UDP destination port for VXLAN encapsulation" .uint32)]
      [])

def defaultNetworkSchema : Schema :=
  .described "Default network backend and its backend-specific configuration"
    (.record none
      [("openshiftSDNConfig", sdnSchema),
        ("type", .described "Backend tag (e.g., \"OpenShiftSDN\")" .text)]
      ["type"])

def proxySchema : Schema :=
  .nullable "Proxy settings shared by the SDN-integrated proxy"
    (.record none
      [("bindAddress", .described "IP address the proxy binds to (e.g., \"0.0.0.0\")" .text),
        ("iptablesSyncPeriod",
          .described "iptables resync interval as a duration string (e.g., \"30s\")" .text),
        ("proxyArguments", .described "Extra proxy arguments; one flag may carry several values"
          (.table (.plain (.list (.plain .text)))))]
      [])

def specSchema : Schema :=
  .described "NetworkConfigSpec defines the desired state of the cluster network"
    (.record none
      [("clusterNetworks",
          .defaulted "Pod networks; nodes are handed host subnets carved out of these"
            (.array []) (.list clusterNetworkSchema)),
        ("defaultNetwork", defaultNetworkSchema),
        ("deployKubeProxy",
          .nullable "Whether a standalone kube-proxy is deployed (computed when unset)" .flag),
        ("kubeProxyConfig", proxySchema),
        ("serviceNetwork", .described "Service network CIDR (e.g., \"172.30.0.0/16\")" .text)]
      ["defaultNetwork", "serviceNetwork"])

def rootSchema : Schema :=
  .described "Auto-generated derived type for NetworkConfigSpec via \x60CustomResource\x60"
    (.record (some "NetworkConfig") [("spec", specSchema)] ["spec"])

def version : Json :=
  .object [("additionalPrinterColumns", .array []), ("name", .string "v1"),
    ("schema", .object [("openAPIV3Schema", rootSchema.toJson)]), ("served", .bool true),
    ("storage", .bool true), ("subresources", .object [])]

def definition : Json :=
  .object [("apiVersion", .string "apiextensions.k8s.io/v1"),
    ("kind", .string "CustomResourceDefinition"),
    ("metadata", .object [("name", .string "networkconfigs.networkoperator.openshift.io")]),
    ("spec", .object [("group", .string "networkoperator.openshift.io"),
      ("names", .object [("categories", .array []), ("kind", .string "NetworkConfig"),
        ("plural", .string "networkconfigs"), ("shortNames", .array []),
        ("singular", .string "networkconfig")]),
      ("scope", .string "Cluster"), ("versions", .array [version])])]

def text : List Char := Yaml.write definition

end Crd

end OverlayConfig
