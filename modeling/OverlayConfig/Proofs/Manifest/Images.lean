import OverlayConfig.Proofs.Manifest.Path
import OverlayConfig.Proofs.Render.Documents
set_option autoImplicit false

namespace OverlayConfig

def Json.withImage (image : String) : Json → Json
  | .object fields => .object (Fields.insert "image" (.string image) fields)
  | v => v

namespace Manifest

def containersPath : KeyPath := ["spec", "template", "spec", "containers"]

def containers (object : Manifest) : List Json :=
  match object.get? containersPath with
  | some (.array items) => items
  | _ => []

def images (object : Manifest) : List (Option Json) :=
  object.containers.map fun v => v.fields?.bind (Fields.get? "image")

def withImage (image : String) (object : Manifest) : Manifest :=
  match object.get? containersPath with
  | some (.array items) => object.set containersPath (.array (items.map (Json.withImage image)))
  | _ => object

def retext (f : List Char → List Char) (object : Manifest) : Manifest :=
  ⟨Json.retextFields f object.fields⟩

end Manifest

section Images

variable {image other : String} {object : Manifest}

theorem Json.withImage_withImage (image other : String) (v : Json) :
    (v.withImage other).withImage image = v.withImage image := by
  cases v with
  | object fields => simp [withImage, Fields.insert_insert]
  | _ => rfl

namespace Manifest

theorem withImage_of_containers {items : List Json}
    (h : object.get? containersPath = some (.array items)) (image : String) :
    object.withImage image =
      object.set containersPath (.array (items.map (Json.withImage image))) := by
  rw [withImage, h]

theorem containers_withImage (image : String) (object : Manifest) :
    (object.withImage image).containers = object.containers.map (Json.withImage image) := by
  rw [withImage]
  split
  · next items h =>
    rw [containers, get?_set_same (by decide), containers, h]
  · next h =>
    have hnone : object.containers = [] := by
      rw [containers]
      split
      · next items hitems => exact absurd hitems (h items)
      · rfl
    rw [hnone, List.map_nil]

theorem withImage_withImage (image other : String) (object : Manifest) :
    (object.withImage other).withImage image = object.withImage image := by
  cases h : object.get? containersPath with
  | none => simp [withImage, h]
  | some v =>
    cases v with
    | array items =>
      have hmap : (items.map (Json.withImage other)).map (Json.withImage image) =
          items.map (Json.withImage image) := by
        rw [List.map_map]
        exact List.map_congr_left fun v _ => Json.withImage_withImage image other v
      rw [withImage_of_containers h, withImage_of_containers h,
        withImage_of_containers (get?_set_same (by decide)), hmap,
        set_set_under List.prefix_rfl (by decide)]
    | _ => simp [withImage, h]

theorem withImage_of_images (h : ∀ found ∈ object.images, found = some (.string image)) :
    object.withImage image = object := by
  rw [withImage]
  split
  · next items hget =>
    have hcontainers : object.containers = items := by rw [containers, hget]
    have hsame : items.map (Json.withImage image) = items := by
      refine (List.map_congr_left fun v hv => ?_).trans (List.map_id' items)
      have himage := h _ (List.mem_map_of_mem (hcontainers.symm ▸ hv))
      cases v with
      | object fields => exact congrArg Json.object (Fields.insert_of_get? himage)
      | _ => rfl
    rw [hsame, set_of_get? hget]
  · rfl

theorem get?_withImage {path : KeyPath} (h : containersPath.Apart path) (image : String)
    (object : Manifest) : (object.withImage image).get? path = object.get? path := by
  rw [withImage]
  split
  · exact get?_set_apart h
  · rfl

theorem heading_withImage (image : String) (object : Manifest) :
    (object.withImage image).heading = object.heading := by
  have htext {path : KeyPath} (h : containersPath.Apart path) :
      (object.withImage image).text? path = object.text? path := by
    rw [text?, get?_withImage h, ← text?]
  simp only [heading, id, apiVersion, kind, namespaceName, name]
  rw [htext (by decide), htext (by decide), htext (by decide), htext (by decide)]

theorem images_withImage (h : ∀ found ∈ object.images, found.isSome = true) (image : String) :
    (object.withImage image).images = object.images.map fun _ => some (.string image) := by
  rw [images, containers_withImage, images, List.map_map, List.map_map]
  refine List.map_congr_left fun v hv => ?_
  cases v with
  | object fields => exact (Fields.get?_insert _ _ _ _).trans (if_pos rfl)
  | _ => cases h _ (List.mem_map_of_mem hv)

end Manifest

end Images

section Retext

variable {f : List Char → List Char} {names : List (List Char)}

theorem retextFields_assign (v : Json) (path : KeyPath) (fields : Fields Json) :
    Json.retextFields f (fields.assign v path) =
      Fields.assign (v.retext f) path (Json.retextFields f fields) := by
  induction path generalizing fields with
  | nil => rfl
  | cons k rest ih =>
    cases rest with
    | nil => exact Yaml.insert_retextFields k v fields
    | cons j rest =>
      have hchild : Fields.child k (Json.retextFields f fields) =
          Json.retextFields f (Fields.child k fields) := by
        have hget : Fields.get? k (Json.retextFields f fields) =
            (Fields.get? k fields).map (Json.retext f) := lookup_retextFields [k] fields
        rw [Fields.child, Fields.child, hget]
        cases Fields.get? k fields with
        | none => rfl
        | some w => cases w <;> rfl
      calc Json.retextFields f (Fields.assign v (k :: j :: rest) fields)
          = Fields.insert k (.object (Json.retextFields f
              (Fields.assign v (j :: rest) (Fields.child k fields))))
              (Json.retextFields f fields) := Yaml.insert_retextFields _ _ _
        _ = Fields.assign (v.retext f) (k :: j :: rest) (Json.retextFields f fields) := by
            rw [ih, ← hchild]
            rfl

theorem retextItems_eq_map (items : List Json) :
    Json.retextItems f items = items.map (Json.retext f) := by
  induction items with
  | nil => rfl
  | cons v rest ih => rw [Json.retextItems, ih, List.map_cons]

theorem Json.retext_withImage (image : String) (v : Json) :
    (v.withImage image).retext f = (v.retext f).withImage (String.ofList (f image.toList)) := by
  cases v with
  | object fields => exact congrArg Json.object (Yaml.insert_retextFields _ _ fields)
  | _ => rfl

theorem Manifest.retext_withImage (image : String) (object : Manifest) :
    (object.withImage image).retext f =
      (object.retext f).withImage (String.ofList (f image.toList)) := by
  have hget : (object.retext f).get? containersPath =
      (object.get? containersPath).map (Json.retext f) := lookup_retextFields _ _
  rw [withImage, withImage, hget]
  cases object.get? containersPath with
  | none => rfl
  | some v =>
    cases v with
    | array items =>
      have hitems : Json.retextItems f (items.map (Json.withImage image)) =
          (Json.retextItems f items).map (Json.withImage (String.ofList (f image.toList))) := by
        rw [retextItems_eq_map, retextItems_eq_map, List.map_map, List.map_map]
        exact List.map_congr_left fun v _ => Json.retext_withImage image v
      refine congrArg Manifest.mk ((retextFields_assign _ _ _).trans ?_)
      rw [Json.retext, hitems]
      rfl
    | _ => rfl

mutual
def Json.avoids (names : List (List Char)) : Json → Bool
  | .string s => !names.contains s.toList
  | .array items => Json.itemsAvoid names items
  | .object fields => Json.fieldsAvoid names fields
  | _ => true

def Json.itemsAvoid (names : List (List Char)) : List Json → Bool
  | [] => true
  | v :: rest => v.avoids names && Json.itemsAvoid names rest

def Json.fieldsAvoid (names : List (List Char)) : List (String × Json) → Bool
  | [] => true
  | (_, v) :: rest => v.avoids names && Json.fieldsAvoid names rest
end

mutual
theorem Json.retext_of_avoids (hf : ∀ text, text ∉ names → f text = text) :
    (v : Json) → v.avoids names = true → v.retext f = v
  | .string s, h => by
    have hs : s.toList ∉ names := by simpa [Json.avoids] using h
    rw [Json.retext, hf _ hs, String.ofList_toList]
  | .array items, h => by rw [Json.retext, Json.retextItems_of_avoid hf items h]
  | .object fields, h => by rw [Json.retext, Json.retextFields_of_avoid hf fields h]
  | .null, _ | .bool _, _ | .number _, _ => rfl

theorem Json.retextItems_of_avoid (hf : ∀ text, text ∉ names → f text = text) :
    (items : List Json) → Json.itemsAvoid names items = true → Json.retextItems f items = items
  | [], _ => rfl
  | v :: rest, h => by
    obtain ⟨hv, hrest⟩ := Bool.and_eq_true_iff.mp h
    rw [Json.retextItems, Json.retext_of_avoids hf v hv, Json.retextItems_of_avoid hf rest hrest]

theorem Json.retextFields_of_avoid (hf : ∀ text, text ∉ names → f text = text) :
    (fields : List (String × Json)) → Json.fieldsAvoid names fields = true →
      Json.retextFields f fields = fields
  | [], _ => rfl
  | (_, v) :: rest, h => by
    obtain ⟨hv, hrest⟩ := Bool.and_eq_true_iff.mp h
    rw [Json.retextFields, Json.retext_of_avoids hf v hv, Json.retextFields_of_avoid hf rest hrest]
end

/-- An object whose image is a name, which it has nowhere else, is the one with the text for the
name as its image once names are replaced. -/
theorem Manifest.retext_of_image (hf : ∀ text, text ∉ names → f text = text) {name : String}
    {object : Manifest} (hname : object.withImage name = object)
    (havoids : Json.fieldsAvoid names (object.withImage "").fields = true) :
    object.retext f = object.withImage (String.ofList (f name.toList)) := by
  have hrest : (object.withImage "").retext f = object.withImage "" :=
    congrArg Manifest.mk (Json.retextFields_of_avoid hf _ havoids)
  calc object.retext f
      = ((object.withImage "").withImage name).retext f := by rw [withImage_withImage, hname]
    _ = (object.withImage "").withImage (String.ofList (f name.toList)) := by
        rw [retext_withImage, hrest]
    _ = object.withImage (String.ofList (f name.toList)) := withImage_withImage _ _ _

end Retext

end OverlayConfig
