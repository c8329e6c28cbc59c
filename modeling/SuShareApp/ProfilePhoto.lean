import SuShareApp.CreateFlow

/-!
# The photo of a profile

`updateImagePressed` starts a chain of four requests : the photo is put into the storage under the
user's id, its download URL is asked for, the URL is stored in the user's document, and then in the
profile that Firebase Auth has. Each is issued by the completion handler of the one before.

The first two belong to the user who pressed the button, but the last two to whoever is signed in
when their turn comes. So a profile only ever shows photos that its own user uploaded
(`photoURL_own`), as long as nobody else signs in while a chain is under way. And the alert of
success means that the storage, the document and Auth agree on the photo of the last press
(`alert_agrees`), if no other press came in between.
-/

namespace SuShareApp

/-! ## The chain -/

/-- The path of a user's photo. -/
def profilePath (userId : String) : String :=
  "UserProfilePhotos/" ++ userId ++ ".jpg"

theorem profilePath_injective : Function.Injective profilePath := fun _ _ h =>
  (String.append_right_inj _).mp ((String.append_left_inj _).mp h)

/-- The requests of the chain. -/
inductive PhotoRequest (Data : Type*)
  | putData (userId : String) (imageData : Data)
  | downloadURL (userId : String)
  | updateDatabaseUserImage (userId photoURL : String)
  | commitChanges (userId photoURL : String)
deriving DecidableEq

/-- What the services answer. -/
inductive PhotoAnswer (Data : Type*)
  | metadata (userId : String)
  | url (userId url : String)
  | updated (userId photoURL : String)
  | committed (userId photoURL : String)
  | failed (r : PhotoRequest Data) (error : String)
deriving DecidableEq

/-- The storage, the users' documents, the photo URLs that Auth has, what is under way, and the
alerts that were shown, the last one first. -/
structure ProfilePhotos (Data : Type*) where
  storage : String → Option Data
  users : Collection String Dictionary
  authPhotoURL : String → Option String
  requests : List (PhotoRequest Data)
  answers : List (PhotoAnswer Data)
  alerts : List (String × String)

namespace ProfilePhotos

/-- A step of the app or of a service. `currentUser` is the id of the user who is signed in at that
time, and `weakSelf` tells whether the screen is still there. -/
inductive Action (Image Data : Type*)
  | updateImagePressed (currentUser : Option String) (selectedImage : Option Image)
  | serve (r : PhotoRequest Data)
  | reject (r : PhotoRequest Data) (error : String)
  | deliver (a : PhotoAnswer Data) (currentUser : Option String) (weakSelf : Bool)

variable {Image Data : Type*}

/-- The service does what is requested. The URL of a photo depends on its path and on the photo. -/
def perform (url : String → Data → String) (s : ProfilePhotos Data) :
    PhotoRequest Data → Option (ProfilePhotos Data × PhotoAnswer Data)
  | .putData userId imageData =>
    (photoReference (some userId) none).map fun path =>
      ({ s with storage := Function.update s.storage path (some imageData) }, .metadata userId)
  | .downloadURL userId => (photoReference (some userId) none).bind fun path =>
    (s.storage path).map fun imageData => (s, .url userId (url path imageData))
  | .updateDatabaseUserImage userId photoURL =>
    (s.users.updateData userId fun d => d.updating (.ofList [("photoURL", .string photoURL)])).map
      fun users => ({ s with users }, .updated userId photoURL)
  | .commitChanges userId photoURL =>
    some ({ s with authPhotoURL := Function.update s.authPhotoURL userId (some photoURL) },
      .committed userId photoURL)

/-- What a completion handler requests. -/
def completion (currentUser : Option String) (weakSelf : Bool) :
    PhotoAnswer Data → List (PhotoRequest Data)
  | .metadata userId => [.downloadURL userId]
  | .url _ photoURL =>
    if weakSelf then currentUser.toList.map (.updateDatabaseUserImage · photoURL) else []
  | .updated _ photoURL => currentUser.toList.map (.commitChanges · photoURL)
  | .committed _ _ => []
  | .failed _ _ => []

/-- What it shows : a failed update of the document or of the profile is only printed. -/
def shown (weakSelf : Bool) : PhotoAnswer Data → List (String × String)
  | .committed _ _ =>
    [("Photo Update successful", "your profile has updated the photo properly")]
  | .failed (.putData _ _) error | .failed (.downloadURL _) error =>
    if weakSelf then [("cant access storage right now", "please try again " ++ error)] else []
  | _ => []

variable [DecidableEq Data]

def step (jpegData : Image → Option Data) (url : String → Data → String) (s : ProfilePhotos Data) :
    Action Image Data → Option (ProfilePhotos Data)
  | .updateImagePressed (some userId) (some image) =>
    match jpegData image with
    | some imageData => some { s with requests := .putData userId imageData :: s.requests }
    | none => some s
  | .updateImagePressed _ _ => some s
  | .serve r =>
    if r ∈ s.requests then
      (s.perform url r).map fun (s', a) =>
        { s' with requests := s.requests.erase r, answers := a :: s.answers }
    else none
  | .reject r error =>
    if r ∈ s.requests then
      some { s with requests := s.requests.erase r, answers := .failed r error :: s.answers }
    else none
  | .deliver a currentUser weakSelf =>
    if a ∈ s.answers then
      some { s with
        requests := completion currentUser weakSelf a ++ s.requests
        answers := s.answers.erase a
        alerts := shown weakSelf a ++ s.alerts }
    else none

end ProfilePhotos

/-- The changes of profile photos, from a state with nothing under way. -/
def profilePhotos {Image Data : Type*} [DecidableEq Data] (jpegData : Image → Option Data)
    (url : String → Data → String) :
    TransitionSystem (ProfilePhotos Data) (ProfilePhotos.Action Image Data) where
  init s := s.requests = [] ∧ s.answers = []
  step := ProfilePhotos.step jpegData url

namespace ProfilePhotos

variable {Image Data : Type*} {jpegData : Image → Option Data} {url : String → Data → String}
  {as : List (Action Image Data)} {s s' : ProfilePhotos Data} {a : Action Image Data}

/-! ## Whose photos -/

/-- The user has pressed the button with this photo. -/
def Uploaded (jpegData : Image → Option Data) (as : List (Action Image Data)) (userId : String)
    (imageData : Data) : Prop :=
  ∃ image, .updateImagePressed (some userId) (some image) ∈ as ∧ jpegData image = some imageData

/-- The URL of a photo of the user's own, at the user's own path. -/
def Own (jpegData : Image → Option Data) (url : String → Data → String)
    (as : List (Action Image Data)) (userId photoURL : String) : Prop :=
  ∃ imageData, Uploaded jpegData as userId imageData ∧
    photoURL = url (profilePath userId) imageData

/-- The user's own photo is stored. -/
def HasOwn (jpegData : Image → Option Data) (as : List (Action Image Data))
    (s : ProfilePhotos Data) (userId : String) : Prop :=
  ∃ imageData, s.storage (profilePath userId) = some imageData ∧
    Uploaded jpegData as userId imageData

def RequestOwned (jpegData : Image → Option Data) (url : String → Data → String)
    (as : List (Action Image Data)) (s : ProfilePhotos Data) : PhotoRequest Data → Prop
  | .putData userId imageData => Uploaded jpegData as userId imageData
  | .downloadURL userId => HasOwn jpegData as s userId
  | .updateDatabaseUserImage userId photoURL | .commitChanges userId photoURL =>
    Own jpegData url as userId photoURL

def AnswerOwned (jpegData : Image → Option Data) (url : String → Data → String)
    (as : List (Action Image Data)) (s : ProfilePhotos Data) : PhotoAnswer Data → Prop
  | .metadata userId => HasOwn jpegData as s userId
  | .url userId photoURL | .updated userId photoURL => Own jpegData url as userId photoURL
  | .committed _ _ | .failed _ _ => True

/-- Everything under way is about the users' own photos. -/
structure Owned (jpegData : Image → Option Data) (url : String → Data → String)
    (as : List (Action Image Data)) (s : ProfilePhotos Data) : Prop where
  requests : ∀ r ∈ s.requests, RequestOwned jpegData url as s r
  answers : ∀ ans ∈ s.answers, AnswerOwned jpegData url as s ans

/-- While an answer is delivered nobody but the user whose photo it is about is signed in. -/
def SameUser : Action Image Data → Prop
  | .deliver (.url userId _) currentUser _ | .deliver (.updated userId _) currentUser _ =>
    ∀ user ∈ currentUser, user = userId
  | _ => True

instance : DecidablePred (SameUser : Action Image Data → Prop)
  | .deliver (.url userId _) currentUser _ | .deliver (.updated userId _) currentUser _ =>
    inferInstanceAs (Decidable (∀ user ∈ currentUser, user = userId))
  | .deliver (.metadata _) _ _ => .isTrue trivial
  | .deliver (.committed _ _) _ _ => .isTrue trivial
  | .deliver (.failed _ _) _ _ => .isTrue trivial
  | .updateImagePressed _ _ => .isTrue trivial
  | .serve _ => .isTrue trivial
  | .reject _ _ => .isTrue trivial

theorem Uploaded.append {userId : String} {imageData : Data}
    (h : Uploaded jpegData as userId imageData) (a : Action Image Data) :
    Uploaded jpegData (as ++ [a]) userId imageData := by
  obtain ⟨image, hmem, hdata⟩ := h
  exact ⟨image, List.mem_append_left _ hmem, hdata⟩

theorem Own.append {userId photoURL : String} (h : Own jpegData url as userId photoURL)
    (a : Action Image Data) : Own jpegData url (as ++ [a]) userId photoURL := by
  obtain ⟨imageData, hup, rfl⟩ := h
  exact ⟨imageData, hup.append a, rfl⟩

theorem HasOwn.append {userId : String} (h : HasOwn jpegData as s userId)
    (hs : s'.storage = s.storage) (a : Action Image Data) :
    HasOwn jpegData (as ++ [a]) s' userId := by
  obtain ⟨imageData, hstored, hup⟩ := h
  exact ⟨imageData, hs ▸ hstored, hup.append a⟩

section Mono

variable (hst : ∀ userId, HasOwn jpegData as s userId → HasOwn jpegData (as ++ [a]) s' userId)
include hst

theorem RequestOwned.mono {r : PhotoRequest Data} (h : RequestOwned jpegData url as s r) :
    RequestOwned jpegData url (as ++ [a]) s' r := by
  cases r with
  | putData userId imageData => exact Uploaded.append h a
  | downloadURL userId => exact hst userId h
  | updateDatabaseUserImage userId photoURL => exact Own.append h a
  | commitChanges userId photoURL => exact Own.append h a

theorem AnswerOwned.mono {ans : PhotoAnswer Data} (h : AnswerOwned jpegData url as s ans) :
    AnswerOwned jpegData url (as ++ [a]) s' ans := by
  cases ans with
  | metadata userId => exact hst userId h
  | url userId photoURL => exact Own.append h a
  | updated userId photoURL => exact Own.append h a
  | committed userId photoURL => trivial
  | failed r error => trivial

end Mono

/-- A service keeps the users' own photos stored, and its answer is about them. -/
theorem owned_of_perform {r : PhotoRequest Data} {ans : PhotoAnswer Data}
    (h : RequestOwned jpegData url as s r) (hs : s.perform url r = some (s', ans)) :
    (∀ userId, HasOwn jpegData as s userId → HasOwn jpegData as s' userId) ∧
      AnswerOwned jpegData url as s' ans := by
  cases r with
  | putData userId imageData =>
    obtain ⟨rfl, rfl⟩ := Prod.mk.inj (Option.some.inj hs)
    refine ⟨fun u hu => ?_, imageData, Function.update_self .., h⟩
    by_cases hne : u = userId
    · subst hne
      exact ⟨imageData, Function.update_self .., h⟩
    · obtain ⟨imageData', hstored, hup⟩ := hu
      have hpath : profilePath u ≠ profilePath userId := fun hp => hne (profilePath_injective hp)
      exact ⟨imageData', (Function.update_of_ne hpath _ _).trans hstored, hup⟩
  | downloadURL userId =>
    obtain ⟨imageData, hstored, heq⟩ := Option.map_eq_some_iff.mp hs
    obtain ⟨rfl, rfl⟩ := Prod.mk.inj heq
    obtain ⟨own, hown, hup⟩ := h
    obtain rfl := Option.some.inj (hstored.symm.trans hown)
    exact ⟨fun _ hu => hu, imageData, hup, rfl⟩
  | updateDatabaseUserImage userId photoURL =>
    obtain ⟨users, -, heq⟩ := Option.map_eq_some_iff.mp hs
    obtain ⟨rfl, rfl⟩ := Prod.mk.inj heq
    exact ⟨fun _ hu => hu, h⟩
  | commitChanges userId photoURL =>
    obtain ⟨rfl, rfl⟩ := Prod.mk.inj (Option.some.inj hs)
    exact ⟨fun _ hu => hu, trivial⟩

/-- What a handler requests is about the user whose photo the answer is about. -/
theorem owned_of_completion {ans : PhotoAnswer Data} {currentUser : Option String}
    {weakSelf : Bool} (h : AnswerOwned jpegData url as s ans)
    (hsame : SameUser (.deliver ans currentUser weakSelf : Action Image Data)) :
    ∀ r ∈ completion currentUser weakSelf ans, RequestOwned jpegData url as s r := by
  intro r hr
  cases ans with
  | metadata userId =>
    obtain rfl := List.mem_singleton.mp hr
    exact h
  | url userId photoURL =>
    obtain ⟨-, hr⟩ : weakSelf = true ∧ _ := by simpa [completion] using hr
    obtain ⟨user, hu, rfl⟩ := hr
    obtain rfl := hsame user hu
    exact h
  | updated userId photoURL =>
    obtain ⟨user, hu, rfl⟩ := List.mem_map.mp hr
    obtain rfl := hsame user (Option.mem_toList.mp hu)
    exact h
  | committed userId photoURL => nomatch hr
  | failed r' error => nomatch hr

/-- A field of a user's document. -/
def field (s : ProfilePhotos Data) (userId key : String) : Option FieldValue :=
  (s.users.get? userId).bind (· key)

/-- The URL stored in the document of the user changes by an update of it only. -/
theorem field_updateDatabaseUserImage {userId photoURL : String} {ans : PhotoAnswer Data}
    (h : s.perform url (.updateDatabaseUserImage userId photoURL) = some (s', ans))
    (u key : String) : s'.field u key =
      if u = userId ∧ key = "photoURL" then some (.string photoURL) else s.field u key := by
  obtain ⟨users, husers, heq⟩ := Option.map_eq_some_iff.mp h
  obtain ⟨rfl, -⟩ := Prod.mk.inj heq
  obtain ⟨doc, hdoc, rfl⟩ := Collection.updateData_eq_some husers
  unfold field
  by_cases hu : u = userId
  · subst hu
    by_cases hkey : key = "photoURL" <;> simp [hdoc, Dictionary.updating, hkey]
  · simp [hu, Collection.get?_setData_of_ne _ hu]

/-! ## The steps -/

section Steps

variable [DecidableEq Data]

/-- What a step can do. -/
inductive Steps (jpegData : Image → Option Data) (url : String → Data → String)
    (s : ProfilePhotos Data) : Action Image Data → ProfilePhotos Data → Prop
  | pressed (userId : String) (image : Image) (imageData : Data)
    (h : jpegData image = some imageData) :
    Steps jpegData url s (.updateImagePressed (some userId) (some image))
      { s with requests := .putData userId imageData :: s.requests }
  | ignored (currentUser : Option String) (selectedImage : Option Image) :
    Steps jpegData url s (.updateImagePressed currentUser selectedImage) s
  | served (r : PhotoRequest Data) (s₁ : ProfilePhotos Data) (ans : PhotoAnswer Data)
    (hr : r ∈ s.requests) (h : s.perform url r = some (s₁, ans)) :
    Steps jpegData url s (.serve r)
      { s₁ with requests := s.requests.erase r, answers := ans :: s.answers }
  | rejected (r : PhotoRequest Data) (error : String) (hr : r ∈ s.requests) :
    Steps jpegData url s (.reject r error)
      { s with requests := s.requests.erase r, answers := .failed r error :: s.answers }
  | delivered (ans : PhotoAnswer Data) (currentUser : Option String) (weakSelf : Bool)
    (ha : ans ∈ s.answers) :
    Steps jpegData url s (.deliver ans currentUser weakSelf)
      { s with
        requests := completion currentUser weakSelf ans ++ s.requests
        answers := s.answers.erase ans
        alerts := shown weakSelf ans ++ s.alerts }

theorem steps_of_step (h : (profilePhotos jpegData url).step s a = some s') :
    Steps jpegData url s a s' := by
  cases a with
  | updateImagePressed currentUser selectedImage =>
    cases currentUser with
    | none =>
      obtain rfl := Option.some.inj h
      exact .ignored _ _
    | some userId =>
      cases selectedImage with
      | none =>
        obtain rfl := Option.some.inj h
        exact .ignored _ _
      | some image =>
        simp only [profilePhotos, step] at h
        split at h
        · next imageData hdata =>
          obtain rfl := Option.some.inj h
          exact .pressed userId image imageData hdata
        · obtain rfl := Option.some.inj h
          exact .ignored _ _
  | serve r =>
    obtain ⟨hr, h⟩ := Option.ite_none_right_eq_some.mp h
    obtain ⟨⟨s₁, ans⟩, hperform, rfl⟩ := Option.map_eq_some_iff.mp h
    exact .served r s₁ ans hr hperform
  | reject r error =>
    obtain ⟨hr, h⟩ := Option.ite_none_right_eq_some.mp h
    obtain rfl := Option.some.inj h
    exact .rejected r error hr
  | deliver ans currentUser weakSelf =>
    obtain ⟨ha, h⟩ := Option.ite_none_right_eq_some.mp h
    obtain rfl := Option.some.inj h
    exact .delivered ans currentUser weakSelf ha

/-! ## A profile shows its user's photos -/

theorem Owned.step (h : Owned jpegData url as s) (hsame : SameUser a)
    (hs : (profilePhotos jpegData url).step s a = some s') :
    Owned jpegData url (as ++ [a]) s' := by
  have hst : ∀ {s₁ s₂ : ProfilePhotos Data}, s₂.storage = s₁.storage → ∀ u,
      HasOwn jpegData as s₁ u → HasOwn jpegData (as ++ [a]) s₂ u := fun hstorage u hu =>
    hu.append hstorage a
  cases steps_of_step hs with
  | pressed userId image imageData hdata =>
    refine ⟨fun r hr => ?_, fun ans hans => (h.answers ans hans).mono (hst rfl)⟩
    rcases List.mem_cons.mp hr with rfl | hr
    · exact ⟨image, List.mem_append_right _ List.mem_cons_self, hdata⟩
    · exact (h.requests r hr).mono (hst rfl)
  | ignored currentUser selectedImage =>
    exact ⟨fun r hr => (h.requests r hr).mono (hst rfl),
      fun ans hans => (h.answers ans hans).mono (hst rfl)⟩
  | served r s₁ ans hr hperform =>
    obtain ⟨hkept, hans⟩ := owned_of_perform (h.requests r hr) hperform
    refine ⟨fun r' hr' => ?_, fun ans' hans' => ?_⟩
    · exact (h.requests r' (List.mem_of_mem_erase hr')).mono fun u hu => hst rfl u (hkept u hu)
    · rcases List.mem_cons.mp hans' with rfl | hans'
      · exact hans.mono (hst rfl)
      · exact (h.answers ans' hans').mono fun u hu => hst rfl u (hkept u hu)
  | rejected r error hr =>
    refine ⟨fun r' hr' => (h.requests r' (List.mem_of_mem_erase hr')).mono (hst rfl),
      fun ans hans => ?_⟩
    rcases List.mem_cons.mp hans with rfl | hans
    · trivial
    · exact (h.answers ans hans).mono (hst rfl)
  | delivered ans currentUser weakSelf hans =>
    refine ⟨fun r hr => ?_,
      fun ans' hans' => (h.answers ans' (List.mem_of_mem_erase hans')).mono (hst rfl)⟩
    rcases List.mem_append.mp hr with hr | hr
    · exact (owned_of_completion (h.answers ans hans) hsame r hr).mono (hst rfl)
    · exact (h.requests r hr).mono (hst rfl)

theorem owned (h : (profilePhotos jpegData url).RunWhere (fun _ => SameUser) as s) :
    Owned jpegData url as s := by
  refine h.invariant (I := Owned jpegData url) (fun s h0 => ?_)
    fun _ _ _ _ _ ih hsame hs => ih.step hsame hs
  obtain ⟨hrequests, hanswers⟩ := h0
  constructor <;> simp [hrequests, hanswers]

/-- While no user's chain meets another user, what a step changes in a profile is its photo URL in
the document or in Auth, and the new one is that of a photo that this user uploaded, at this user's
own path. -/
theorem photoURL_own (h : (profilePhotos jpegData url).RunWhere (fun _ => SameUser) as s)
    (hs : (profilePhotos jpegData url).step s a = some s') (userId : String) :
    (∀ key, s'.field userId key ≠ s.field userId key → key = "photoURL" ∧
      ∃ photoURL, s'.field userId key = some (.string photoURL) ∧
        Own jpegData url as userId photoURL) ∧
    (s'.authPhotoURL userId ≠ s.authPhotoURL userId →
      ∃ photoURL, s'.authPhotoURL userId = some photoURL ∧
        Own jpegData url as userId photoURL) := by
  have howned := owned h
  cases steps_of_step hs with
  | pressed | ignored | rejected | delivered =>
    exact ⟨fun key hne => absurd rfl hne, fun hne => absurd rfl hne⟩
  | served r s₁ ans hr hperform =>
    have hown := howned.requests r hr
    cases r with
    | putData u imageData =>
      obtain ⟨rfl, -⟩ := Prod.mk.inj (Option.some.inj hperform)
      exact ⟨fun key hne => absurd rfl hne, fun hne => absurd rfl hne⟩
    | downloadURL u =>
      obtain ⟨imageData, -, heq⟩ := Option.map_eq_some_iff.mp hperform
      obtain ⟨rfl, -⟩ := Prod.mk.inj heq
      exact ⟨fun key hne => absurd rfl hne, fun hne => absurd rfl hne⟩
    | updateDatabaseUserImage u photoURL =>
      have hfield := field_updateDatabaseUserImage hperform
      refine ⟨fun key hne => ?_, fun hne => ?_⟩
      · have hkey : s₁.field userId key = _ := hfield userId key
        split_ifs at hkey with hif
        · obtain ⟨rfl, rfl⟩ := hif
          exact ⟨rfl, photoURL, hkey, hown⟩
        · exact absurd hkey hne
      · obtain ⟨users, -, heq⟩ := Option.map_eq_some_iff.mp hperform
        obtain ⟨rfl, -⟩ := Prod.mk.inj heq
        exact absurd rfl hne
    | commitChanges u photoURL =>
      obtain ⟨rfl, -⟩ := Prod.mk.inj (Option.some.inj hperform)
      refine ⟨fun key hne => absurd rfl hne, fun hne => ?_⟩
      by_cases hu : userId = u
      · subst hu
        exact ⟨photoURL, Function.update_self .., hown⟩
      · exact absurd (Function.update_of_ne hu _ _) hne

end Steps

/-- Photos that are their own data, and URLs that show them. -/
def sample : TransitionSystem (ProfilePhotos String) (Action String String) :=
  profilePhotos some CreateFlow.sampleURL

/-- Ann has chosen a photo, and its URL is on its way to her document. -/
def updatingAnn : List (Action String String) :=
  [.updateImagePressed (some "ann") (some "face"), .serve (.putData "ann" "face"),
    .deliver (.metadata "ann") (some "ann") true, .serve (.downloadURL "ann"),
    .deliver (.url "ann" "UserProfilePhotos/ann.jpg?face") (some "ann") true]

theorem photoURL_own_updatingAnn : ∃ s s',
    sample.RunWhere (fun _ => SameUser) updatingAnn s ∧
      sample.step s
        (.serve (.updateDatabaseUserImage "ann" "UserProfilePhotos/ann.jpg?face")) = some s' ∧
      s'.field "ann" "photoURL" ≠ s.field "ann" "photoURL" ∧
      ∃ photoURL, s'.field "ann" "photoURL" = some (.string photoURL) ∧
        Own some CreateFlow.sampleURL updatingAnn "ann" photoURL := by
  have h0 : sample.init
      ⟨fun _ => none, Sample.profiles, fun _ => none, [], [], []⟩ := ⟨rfl, rfl⟩
  obtain ⟨s, hrun, s', hs, hne⟩ := TransitionSystem.exists_run_of_exec
    (T := sample.guarded fun _ => SameUser) updatingAnn
    (fun s => ∃ s' ∈ sample.step s
        (.serve (.updateDatabaseUserImage "ann" "UserProfilePhotos/ann.jpg?face")),
      s'.field "ann" "photoURL" ≠ s.field "ann" "photoURL") h0 (by decide +kernel)
  exact ⟨s, s', hrun.runWhere, hs, hne, ((photoURL_own hrun.runWhere hs "ann").1 _ hne).2⟩

/-! ## What the alert means -/

section Agreement

variable (jpegData url as s)

/-- The user and the photo of the last press. -/
def lastPress : Option (String × Data) :=
  (as.filterMap fun
    | .updateImagePressed (some userId) (some image) => (jpegData image).map (userId, ·)
    | _ => none).getLast?

/-- The photo of the last press is the one stored for its user. -/
def Current (userId : String) (imageData : Data) : Prop :=
  lastPress jpegData as = some (userId, imageData) ∧
    s.storage (profilePath userId) = some imageData

def RequestCurrent : PhotoRequest Data → Prop
  | .putData userId imageData => lastPress jpegData as = some (userId, imageData)
  | .downloadURL userId => ∃ imageData, Current jpegData as s userId imageData
  | .updateDatabaseUserImage userId photoURL => ∃ imageData,
    Current jpegData as s userId imageData ∧ photoURL = url (profilePath userId) imageData
  | .commitChanges userId photoURL => ∃ imageData,
    Current jpegData as s userId imageData ∧ photoURL = url (profilePath userId) imageData ∧
      s.field userId "photoURL" = some (.string photoURL)

def AnswerCurrent : PhotoAnswer Data → Prop
  | .metadata userId => ∃ imageData, Current jpegData as s userId imageData
  | .url userId photoURL => ∃ imageData,
    Current jpegData as s userId imageData ∧ photoURL = url (profilePath userId) imageData
  | .updated userId photoURL => ∃ imageData,
    Current jpegData as s userId imageData ∧ photoURL = url (profilePath userId) imageData ∧
      s.field userId "photoURL" = some (.string photoURL)
  | .committed userId photoURL => ∃ imageData,
    Current jpegData as s userId imageData ∧ photoURL = url (profilePath userId) imageData ∧
      s.field userId "photoURL" = some (.string photoURL) ∧
      s.authPhotoURL userId = some photoURL
  | .failed _ _ => True

/-- At most one request or answer is under way, and it is about the photo of the last press. -/
structure Single : Prop where
  length_le : s.requests.length + s.answers.length ≤ 1
  requests : ∀ r ∈ s.requests, RequestCurrent jpegData url as s r
  answers : ∀ ans ∈ s.answers, AnswerCurrent jpegData url as s ans

/-- The button is pressed while nothing is under way, and nobody else signs in. -/
def Undisturbed : Action Image Data → Prop
  | .updateImagePressed _ _ => s.requests = [] ∧ s.answers = []
  | a => SameUser a

instance [DecidableEq Data] : DecidablePred (s.Undisturbed : Action Image Data → Prop)
  | .updateImagePressed _ _ => inferInstanceAs (Decidable (s.requests = [] ∧ s.answers = []))
  | .serve r => inferInstanceAs (Decidable (SameUser (.serve r : Action Image Data)))
  | .reject r error => inferInstanceAs (Decidable (SameUser (.reject r error : Action Image Data)))
  | .deliver ans currentUser weakSelf => inferInstanceAs
    (Decidable (SameUser (.deliver ans currentUser weakSelf : Action Image Data)))

end Agreement

section Agreement

variable {r : PhotoRequest Data} {ans : PhotoAnswer Data}

theorem alerts_of_perform (h : s.perform url r = some (s', ans)) : s'.alerts = s.alerts := by
  cases r with
  | putData userId imageData =>
    obtain ⟨rfl, -⟩ := Prod.mk.inj (Option.some.inj h)
    rfl
  | downloadURL userId =>
    obtain ⟨imageData, -, heq⟩ := Option.map_eq_some_iff.mp h
    obtain ⟨rfl, -⟩ := Prod.mk.inj heq
    rfl
  | updateDatabaseUserImage userId photoURL =>
    obtain ⟨users, -, heq⟩ := Option.map_eq_some_iff.mp h
    obtain ⟨rfl, -⟩ := Prod.mk.inj heq
    rfl
  | commitChanges userId photoURL =>
    obtain ⟨rfl, -⟩ := Prod.mk.inj (Option.some.inj h)
    rfl

/-- What a service answers is about the photo of the last press, if the request was. -/
theorem answerCurrent_of_perform (h : RequestCurrent jpegData url as s r)
    (hs : s.perform url r = some (s', ans)) : AnswerCurrent jpegData url as s' ans := by
  cases r with
  | putData userId imageData =>
    obtain ⟨rfl, rfl⟩ := Prod.mk.inj (Option.some.inj hs)
    exact ⟨imageData, h, Function.update_self ..⟩
  | downloadURL userId =>
    obtain ⟨imageData, hstored, heq⟩ := Option.map_eq_some_iff.mp hs
    obtain ⟨rfl, rfl⟩ := Prod.mk.inj heq
    obtain ⟨imageData', hlast, hcurrent⟩ := h
    obtain rfl := Option.some.inj (hstored.symm.trans hcurrent)
    exact ⟨imageData, ⟨hlast, hstored⟩, rfl⟩
  | updateDatabaseUserImage userId photoURL =>
    have hfield := field_updateDatabaseUserImage hs userId "photoURL"
    rw [if_pos ⟨rfl, rfl⟩] at hfield
    obtain ⟨users, -, heq⟩ := Option.map_eq_some_iff.mp hs
    obtain ⟨rfl, rfl⟩ := Prod.mk.inj heq
    obtain ⟨imageData, hcurrent, hurl⟩ := h
    exact ⟨imageData, hcurrent, hurl, hfield⟩
  | commitChanges userId photoURL =>
    obtain ⟨rfl, rfl⟩ := Prod.mk.inj (Option.some.inj hs)
    obtain ⟨imageData, hcurrent, hurl, hfield⟩ := h
    exact ⟨imageData, hcurrent, hurl, hfield, Function.update_self ..⟩

/-- A handler requests one thing at most, about the photo of the last press. -/
theorem requestCurrent_of_completion {currentUser : Option String} {weakSelf : Bool}
    (h : AnswerCurrent jpegData url as s ans)
    (hsame : SameUser (.deliver ans currentUser weakSelf : Action Image Data)) :
    (completion currentUser weakSelf ans).length ≤ 1 ∧
      ∀ r ∈ completion currentUser weakSelf ans, RequestCurrent jpegData url as s r := by
  cases ans with
  | metadata userId =>
    refine ⟨le_rfl, fun r hr => ?_⟩
    obtain rfl := List.mem_singleton.mp hr
    exact h
  | url userId photoURL =>
    cases weakSelf with
    | false => exact ⟨Nat.zero_le _, fun r hr => nomatch hr⟩
    | true =>
      cases currentUser with
      | none => exact ⟨Nat.zero_le _, fun r hr => nomatch hr⟩
      | some user =>
        refine ⟨le_rfl, fun r hr => ?_⟩
        obtain rfl := List.mem_singleton.mp hr
        obtain rfl := hsame user rfl
        exact h
  | updated userId photoURL =>
    cases currentUser with
    | none => exact ⟨Nat.zero_le _, fun r hr => nomatch hr⟩
    | some user =>
      refine ⟨le_rfl, fun r hr => ?_⟩
      obtain rfl := List.mem_singleton.mp hr
      obtain rfl := hsame user rfl
      exact h
  | committed userId photoURL => exact ⟨Nat.zero_le _, fun r hr => nomatch hr⟩
  | failed r' error => exact ⟨Nat.zero_le _, fun r hr => nomatch hr⟩

/-- Only a press changes which one is the last. -/
theorem lastPress_append (h : ∀ currentUser selectedImage,
    a ≠ .updateImagePressed currentUser selectedImage) :
    lastPress jpegData (as ++ [a]) = lastPress jpegData as := by
  unfold lastPress
  cases a with
  | updateImagePressed currentUser selectedImage => exact absurd rfl (h _ _)
  | serve r => simp
  | reject r error => simp
  | deliver ans currentUser weakSelf => simp

theorem RequestCurrent.of_eq {as' : List (Action Image Data)}
    (h : RequestCurrent jpegData url as s r)
    (hlast : lastPress jpegData as' = lastPress jpegData as) (hstorage : s'.storage = s.storage)
    (husers : s'.users = s.users) : RequestCurrent jpegData url as' s' r := by
  cases r <;> simp only [RequestCurrent, Current, field, hlast, hstorage, husers] <;> exact h

theorem AnswerCurrent.of_eq {as' : List (Action Image Data)}
    (h : AnswerCurrent jpegData url as s ans)
    (hlast : lastPress jpegData as' = lastPress jpegData as) (hstorage : s'.storage = s.storage)
    (husers : s'.users = s.users) (hauth : s'.authPhotoURL = s.authPhotoURL) :
    AnswerCurrent jpegData url as' s' ans := by
  cases ans <;> simp only [AnswerCurrent, Current, field, hlast, hstorage, husers, hauth] <;>
    exact h

theorem Single.requests_eq (h : Single jpegData url as s) (hr : r ∈ s.requests) :
    s.requests = [r] ∧ s.answers = [] := by
  have hlength := h.length_le
  have hpos : 0 < s.requests.length := List.length_pos_of_mem hr
  obtain ⟨r', hr'⟩ := List.length_eq_one_iff.mp (show s.requests.length = 1 by omega)
  rw [hr'] at hr ⊢
  obtain rfl := List.mem_singleton.mp hr
  exact ⟨rfl, List.eq_nil_of_length_eq_zero (by omega)⟩

theorem Single.answers_eq (h : Single jpegData url as s) (hans : ans ∈ s.answers) :
    s.answers = [ans] ∧ s.requests = [] := by
  have hlength := h.length_le
  have hpos : 0 < s.answers.length := List.length_pos_of_mem hans
  obtain ⟨ans', hans'⟩ := List.length_eq_one_iff.mp (show s.answers.length = 1 by omega)
  rw [hans'] at hans ⊢
  obtain rfl := List.mem_singleton.mp hans
  exact ⟨rfl, List.eq_nil_of_length_eq_zero (by omega)⟩

variable [DecidableEq Data]

theorem Single.step (h : Single jpegData url as s) (hundisturbed : s.Undisturbed a)
    (hs : (profilePhotos jpegData url).step s a = some s') :
    Single jpegData url (as ++ [a]) s' := by
  cases steps_of_step hs with
  | pressed userId image imageData hdata =>
    obtain ⟨hrequests, hanswers⟩ := hundisturbed
    refine ⟨by simp [hrequests, hanswers], fun r hr => ?_, fun ans hans => ?_⟩
    · rw [hrequests] at hr
      obtain rfl := List.mem_singleton.mp hr
      simp [RequestCurrent, lastPress, hdata]
    · rw [hanswers] at hans
      nomatch hans
  | ignored currentUser selectedImage =>
    obtain ⟨hrequests, hanswers⟩ := hundisturbed
    constructor <;> simp [hrequests, hanswers]
  | served r s₁ ans hr hperform =>
    obtain ⟨hrequests, hanswers⟩ := h.requests_eq hr
    have hans := answerCurrent_of_perform (h.requests r hr) hperform
    refine ⟨by simp [hrequests, hanswers], fun r' hr' => ?_, fun ans' hans' => ?_⟩
    · simp [hrequests] at hr'
    · rw [hanswers] at hans'
      obtain rfl := List.mem_singleton.mp hans'
      exact hans.of_eq (lastPress_append (by simp)) rfl rfl rfl
  | rejected r error hr =>
    obtain ⟨hrequests, hanswers⟩ := h.requests_eq hr
    refine ⟨by simp [hrequests, hanswers], fun r' hr' => ?_, fun ans hans => ?_⟩
    · simp [hrequests] at hr'
    · rw [hanswers] at hans
      obtain rfl := List.mem_singleton.mp hans
      trivial
  | delivered ans currentUser weakSelf hans =>
    obtain ⟨hanswers, hrequests⟩ := h.answers_eq hans
    obtain ⟨hlength, hcurrent⟩ := requestCurrent_of_completion (h.answers ans hans) hundisturbed
    refine ⟨by simpa [hrequests, hanswers] using hlength, fun r hr => ?_, fun ans' hans' => ?_⟩
    · rw [hrequests, List.append_nil] at hr
      exact (hcurrent r hr).of_eq (lastPress_append (by simp)) rfl rfl
    · simp [hanswers] at hans'

theorem single (h : (profilePhotos jpegData url).RunWhere Undisturbed as s) :
    Single jpegData url as s := by
  refine h.invariant (I := Single jpegData url) (fun s h0 => ?_)
    fun _ _ _ _ _ ih hundisturbed hs => ih.step hundisturbed hs
  obtain ⟨hrequests, hanswers⟩ := h0
  constructor <;> simp [hrequests, hanswers]

/-- Where the alert of success comes from. -/
theorem exists_committed_of_alert (hs : (profilePhotos jpegData url).step s a = some s')
    {message : String} (hshown : s'.alerts = ("Photo Update successful", message) :: s.alerts) :
    ∃ userId photoURL currentUser weakSelf, a = .deliver (.committed userId photoURL)
      currentUser weakSelf ∧ .committed userId photoURL ∈ s.answers := by
  have hne : ∀ {x : String × String} {l : List (String × String)}, l ≠ x :: l := fun h => by
    simpa using congrArg List.length h
  cases steps_of_step hs with
  | pressed | ignored | rejected => exact absurd hshown hne
  | served r s₁ ans hr hperform =>
    rw [show s₁.alerts = s.alerts from alerts_of_perform hperform] at hshown
    exact absurd hshown hne
  | delivered ans currentUser weakSelf hans =>
    have hshown' : shown weakSelf ans = [("Photo Update successful", message)] :=
      List.append_cancel_right (show shown weakSelf ans ++ s.alerts = [_] ++ s.alerts from hshown)
    cases ans with
    | committed userId photoURL => exact ⟨userId, photoURL, currentUser, weakSelf, rfl, hans⟩
    | failed r error => cases r <;> cases weakSelf <;> simp [shown] at hshown'
    | _ => nomatch hshown'

/-- When the alert of success is shown, the photo of the last press is stored at the path of the
user who pressed, and the user's document and Auth have its URL. -/
theorem alert_agrees (h : (profilePhotos jpegData url).RunWhere Undisturbed as s)
    (hs : (profilePhotos jpegData url).step s a = some s') {message : String}
    (hshown : s'.alerts = ("Photo Update successful", message) :: s.alerts) :
    ∃ userId imageData, lastPress jpegData as = some (userId, imageData) ∧
      s'.storage (profilePath userId) = some imageData ∧
      s'.field userId "photoURL" = some (.string (url (profilePath userId) imageData)) ∧
      s'.authPhotoURL userId = some (url (profilePath userId) imageData) := by
  obtain ⟨userId, photoURL, currentUser, weakSelf, rfl, hans⟩ := exists_committed_of_alert hs hshown
  obtain ⟨imageData, ⟨hlast, hstored⟩, rfl, hfield, hauth⟩ := (single h).answers _ hans
  cases steps_of_step hs with
  | delivered => exact ⟨userId, imageData, hlast, hstored, hfield, hauth⟩

end Agreement

/-- The chain comes to its end. -/
def updatedAnn : List (Action String String) :=
  updatingAnn ++
    [.serve (.updateDatabaseUserImage "ann" "UserProfilePhotos/ann.jpg?face"),
      .deliver (.updated "ann" "UserProfilePhotos/ann.jpg?face") (some "ann") true,
      .serve (.commitChanges "ann" "UserProfilePhotos/ann.jpg?face")]

theorem alert_agrees_updatedAnn : ∃ s s',
    sample.RunWhere Undisturbed updatedAnn s ∧
      sample.step s (.deliver (.committed "ann"
        "UserProfilePhotos/ann.jpg?face") (some "ann") true) = some s' ∧
      s'.alerts = ("Photo Update successful",
        "your profile has updated the photo properly") :: s.alerts ∧
      ∃ userId imageData, lastPress some updatedAnn = some (userId, imageData) ∧
        s'.storage (profilePath userId) = some imageData ∧
        s'.field userId "photoURL" =
          some (.string (CreateFlow.sampleURL (profilePath userId) imageData)) ∧
        s'.authPhotoURL userId = some (CreateFlow.sampleURL (profilePath userId) imageData) := by
  have h0 : sample.init
      ⟨fun _ => none, Sample.profiles, fun _ => none, [], [], []⟩ := ⟨rfl, rfl⟩
  obtain ⟨s, hrun, s', hs, hshown⟩ := TransitionSystem.exists_run_of_exec
    (T := sample.guarded Undisturbed) updatedAnn
    (fun s => ∃ s' ∈ sample.step s
        (.deliver (.committed "ann" "UserProfilePhotos/ann.jpg?face") (some "ann") true),
      s'.alerts = ("Photo Update successful",
        "your profile has updated the photo properly") :: s.alerts) h0 (by decide +kernel)
  exact ⟨s, s', hrun.runWhere, hs, hshown, alert_agrees hrun.runWhere hs hshown⟩

/-- If Bob signs in while Ann's document is updated, he gets her photo. -/
def switchingUsers : List (Action String String) :=
  updatingAnn ++
    [.serve (.updateDatabaseUserImage "ann" "UserProfilePhotos/ann.jpg?face"),
      .deliver (.updated "ann" "UserProfilePhotos/ann.jpg?face") (some "bob") false,
      .serve (.commitChanges "bob" "UserProfilePhotos/ann.jpg?face")]

example : ∃ s, sample.Run switchingUsers s ∧
    s.authPhotoURL "bob" = some (CreateFlow.sampleURL (profilePath "ann") "face") :=
  TransitionSystem.exists_run_of_exec (T := sample)
    switchingUsers _
    (show sample.init
      ⟨fun _ => none, Sample.profiles, fun _ => none, [], [], []⟩ from ⟨rfl, rfl⟩)
    (by decide +kernel)

end ProfilePhotos

end SuShareApp
