import ScopeComposer.Graphql.Field

/-!
# The fixed selections

The fields that are fetched of every kind of resource, and the part of a collection that says
whether there is a next page.
-/

namespace ScopeComposer.Graphql

/-- What a collection says of its pages. -/
def pageInfo : String :=
  Text.unlines (fieldLines 0 [.node "pageInfo" (leaves ["endCursor", "hasNextPage"])])

/-! ## Accounts -/

/-- The essential fields of an organization. -/
def organizationEssential : List Field := leaves ["name", "description", "url", "avatarUrl"]

/-- The essential fields of a user. -/
def userEssential : List Field := leaves ["name", "bio", "url", "avatarUrl"]

/-- The further fields of an organization. -/
def organizationInfo : List Field :=
  leaves
    ["email", "websiteUrl", "location", "createdAt", "updatedAt", "isVerified", "announcement"]

/-- The further fields of a user. -/
def userInfo : List Field :=
  leaves ["email", "websiteUrl", "location", "company", "pronouns", "createdAt", "updatedAt"]

/-- The fields of a package. -/
def packageFields : List Field :=
  leaves ["name", "packageType"] ++
    [.node "latestVersion"
      (leaves ["version", "platform", "preRelease", "readme"] ++
        [.firstTen "files" (leaves ["name", "sha256", "size", "updatedAt", "url"])])]

/-! ## Projects -/

/-- The fields of a project. -/
def projectInfo : List Field :=
  leaves
    ["shortDescription", "url", "public", "closed", "createdAt", "updatedAt", "closedAt", "readme"]

/-! ## Repositories -/

/-- The fields of a repository. -/
def repositoryInfo : List Field :=
  leaves
    ["description", "url", "homepageUrl", "sshUrl", "resourcePath", "createdAt", "updatedAt",
      "isArchived", "isPrivate", "isTemplate"]

/-- The license of a repository. -/
def license : List Field :=
  [.node "licenseInfo"
    (leaves ["url", "spdxId", "name", "nickname", "description"] ++
      [.node "conditions" (leaves ["key", "label", "description"])])]

/-- The fields of a vulnerability alert. -/
def vulnerabilityFields : List Field :=
  leaves ["createdAt", "fixedAt", "dependencyScope"] ++
    [.node "securityVulnerability"
      (leaves ["vulnerableVersionRange", "updatedAt"] ++
        [.node "advisory"
          (leaves ["classification", "summary", "description", "publishedAt", "updatedAt"]),
          .node "firstPatchedVersion" (leaves ["identifier"]),
          .node "package" (leaves ["ecosystem", "name"])])]

/-- The fields of a topic. -/
def topicFields : List Field := leaves ["url"] ++ [.node "topic" (leaves ["name"])]

/-- The fields of a label. -/
def labelFields : List Field := leaves ["name", "color", "description", "createdAt", "url"]

/-- The fields of a release. -/
def releaseFields : List Field :=
  leaves
    ["name", "tagName", "description", "url", "createdAt", "updatedAt", "isDraft", "isLatest",
      "isPrerelease"] ++
    [.node "author" (leaves ["login", "name", "avatarUrl", "url"]),
      .node "tagCommit" (leaves ["oid", "authoredDate", "additions", "deletions"]),
      .firstTen "releaseAssets"
        (leaves ["name", "contentType", "size", "downloadCount", "createdAt", "updatedAt"])]

/-- The fields of a deployment. -/
def deploymentFields : List Field :=
  leaves ["createdAt", "updatedAt", "description", "environment", "task"] ++
    [.node "commit" (leaves ["oid", "authoredDate"]),
      .node "latestStatus"
        (leaves ["state", "description", "logUrl", "environmentUrl", "createdAt", "updatedAt"]),
      .firstTen "statuses"
        (leaves ["state", "description", "logUrl", "environmentUrl", "createdAt"])]

/-- The fields of a programming language. -/
def languageFields : List Field := leaves ["name", "color"]

/-! ## Milestones and issues -/

/-- The fields of a milestone. -/
def milestoneInfo : List Field :=
  leaves
    ["title", "description", "state", "url", "dueOn", "progressPercentage", "createdAt",
      "updatedAt", "closedAt"]

/-- The fields of an issue. -/
def issueFields : List Field :=
  leaves
    ["number", "title", "url", "state", "body", "bodyUrl", "createdAt", "updatedAt", "closedAt",
      "lastEditedAt"] ++
    [.firstTen "assignees" (leaves ["login", "name", "avatarUrl", "url"]),
      .firstTen "labels" (leaves ["name", "color", "description", "isDefault", "url"])]

/-! ## Quota -/

/-- The fields of the request quota. -/
def quotaFields : List Field := leaves ["limit", "remaining", "used", "resetAt"]

end ScopeComposer.Graphql
