import Timeline.Artifact.Basic
import Timeline.Text.Markup
/-!
# Database artifacts

* Android's download manager keeps one row per download in the table `downloads`;
  the last modification is in Java milliseconds, status fields are opaque
  integers.
* Chrome keeps cookies in the table `cookies`, times in WebKit microseconds
  (zero for never). Releases from 66 on renamed the flag columns to `is_secure`,
  `is_httponly` and `is_persistent`. The cookie's URL is derived from its host
  (without a leading dot), its path and its secure flag.
* Apple Notes keeps notes in `ZNOTE` and their HTML bodies in `ZNOTEBODY`, times
  in Cocoa seconds; the text of a note is the visible text of its body.
-/

namespace Timeline.Builtin

/-- The columns of Android's `downloads` table. -/
def downloadColumns : List String :=
  ["_id", "uri", "_data", "mimetype", "destination", "visibility", "status", "lastmod",
    "notificationpackage", "total_bytes", "current_bytes", "etag", "title", "description",
    "is_visible_in_downloads_ui", "mediaprovider_uri", "deleted", "errorMsg"]

/-- Android's download manager database. -/
def androidDownloads : RowArtifact where
  name := "android_native_downloads"
  description := "Android native downloads SQLite database"
  required := [⟨"downloads", downloadColumns⟩]
  queries := [{
    sql := "SELECT _id, uri, _data, mimetype, destination, visibility, status, lastmod, " ++
      "notificationpackage, total_bytes, current_bytes, etag, title, description, " ++
      "is_visible_in_downloads_ui, mediaprovider_uri, deleted, errorMsg FROM downloads"
    columns := [⟨"_id", "id", .int⟩, ⟨"uri", "uri", .text⟩, ⟨"_data", "saved_to", .text⟩,
      ⟨"mimetype", "mimetype", .text⟩, ⟨"destination", "destination", .int⟩,
      ⟨"visibility", "ui_visibility", .int⟩, ⟨"status", "status", .int⟩,
      ⟨"lastmod", "lastmod", .javaTime⟩,
      ⟨"notificationpackage", "notification_package", .text⟩,
      ⟨"total_bytes", "total_bytes", .int⟩, ⟨"current_bytes", "current_bytes", .int⟩,
      ⟨"etag", "e_tag", .text⟩, ⟨"title", "title", .text⟩,
      ⟨"description", "description", .text⟩,
      ⟨"is_visible_in_downloads_ui", "is_visible_in_downloads_ui", .bool⟩,
      ⟨"mediaprovider_uri", "media_provider_uri", .text⟩, ⟨"deleted", "deleted", .bool⟩,
      ⟨"errorMsg", "error_msg", .text⟩] }]
  emission :=
    { dataType := "android:sqlite:downloads"
      attributes := ["id", "uri", "saved_to", "mimetype", "destination", "ui_visibility",
        "status", "lastmod", "notification_package", "total_bytes", "current_bytes", "e_tag",
        "title", "description", "is_visible_in_downloads_ui", "media_provider_uri", "deleted",
        "error_msg"].map AttributeSpec.same }

/-- The URL of a cookie: `https` when secure, else `http`, the host without its
leading dots, and the path. -/
def cookieUrl (record : Record) : Record :=
  match record.getStr? "host" with
  | none => record
  | some host =>
    let host := String.ofList (host.toList.dropWhile (· == '.'))
    let path := (record.getStr? "path").getD ""
    let scheme := if record.getBool? "secure" == some true then "https" else "http"
    record.insert "url" (.str (scheme ++ "://" ++ host ++ path))

/-- The columns Chrome's cookie query reads, by the names the query gives them. -/
def cookieColumns : List ColumnSpec :=
  [⟨"creation_utc", "creation_time", .webkitTime⟩, ⟨"host_key", "host", .text⟩,
    ⟨"name", "cookie_name", .text⟩, ⟨"value", "data", .text⟩, ⟨"path", "path", .text⟩,
    ⟨"expires_utc", "expiration_time", .webkitTime⟩, ⟨"secure", "secure", .bool⟩,
    ⟨"httponly", "httponly", .bool⟩, ⟨"last_access_utc", "last_access_time", .webkitTime⟩,
    ⟨"persistent", "persistent", .bool⟩]

/-- The events of Chrome's cookies. -/
def cookieEmission : Emission :=
  { dataType := "chrome:cookie:entry"
    attributes := ["creation_time", "last_access_time", "expiration_time", "host",
      "cookie_name", "data", "path", "secure", "httponly", "persistent", "url"].map
      AttributeSpec.same }

/-- A column selected under the name the query reads it by. -/
def selectAs (column name : String) : String :=
  if column == name then column else column ++ " AS " ++ name

/-- A cookie database of Chrome, given the names of its three flag columns. -/
def chromeCookies (name description secure httponly persistent : String) : RowArtifact where
  name := name
  description := description
  required := [⟨"cookies", ["creation_utc", "host_key", "name", "value", "path", "expires_utc",
      secure, httponly, "last_access_utc", "has_expires", persistent]⟩, ⟨"meta", []⟩]
  queries := [{
    sql := "SELECT creation_utc, host_key, name, value, path, expires_utc, " ++
      selectAs secure "secure" ++ ", " ++ selectAs httponly "httponly" ++
      ", last_access_utc, has_expires, " ++ selectAs persistent "persistent" ++ " FROM cookies"
    columns := cookieColumns
    derived := ["url"]
    finish := cookieUrl }]
  emission := cookieEmission

/-- Chrome releases 17 to 65. -/
def chrome17Cookies : RowArtifact :=
  chromeCookies "chrome_17_cookies" "Google Chrome 17 - 65 cookies SQLite database"
    "secure" "httponly" "persistent"

/-- Chrome releases from 66 on. -/
def chrome66Cookies : RowArtifact :=
  chromeCookies "chrome_66_cookies" "Google Chrome 66 and later cookies SQLite database"
    "is_secure" "is_httponly" "is_persistent"

/-- The text of a note: the visible text of its HTML body. -/
def noteText (record : Record) : Record :=
  match record.getStr? "html" with
  | none => record
  | some html => record.insert "text" (.str (Text.visibleText html))

/-- Apple Notes. -/
def macNotes : RowArtifact where
  name := "mac_notes"
  description := "Mac Notes SQLite database"
  required := [⟨"ZNOTE", ["Z_PK", "ZTITLE", "ZDATECREATED", "ZDATEEDITED"]⟩,
    ⟨"ZNOTEBODY", ["ZNOTE", "ZHTMLSTRING"]⟩]
  queries := [{
    sql := "SELECT n.ZTITLE AS ZTITLE, n.ZDATECREATED AS ZDATECREATED, " ++
      "n.ZDATEEDITED AS ZDATEEDITED, nb.ZHTMLSTRING AS ZHTMLSTRING " ++
      "FROM ZNOTE AS n, ZNOTEBODY AS nb WHERE nb.ZNOTE = n.Z_PK ORDER BY n.Z_PK"
    columns := [⟨"ZTITLE", "title", .text⟩, ⟨"ZDATECREATED", "creation_time", .cocoaTime⟩,
      ⟨"ZDATEEDITED", "modification_time", .cocoaTime⟩, ⟨"ZHTMLSTRING", "html", .text⟩]
    derived := ["text"]
    finish := noteText }]
  emission :=
    { dataType := "mac:notes:note"
      attributes := ["title", "text", "creation_time", "modification_time"].map AttributeSpec.same }

end Timeline.Builtin
