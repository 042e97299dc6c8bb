import Curriculum.Registry.Directory

/-! # The built-in template

The library brings one template of its own, a résumé on letter paper: a schema file, whose fields are
`Classic.fields`, and a body. In the lines of the body the braces of LaTeX and of tags are written ‹
and ›. -/

namespace Curriculum

/-- The text with braces in place of ‹ and ›. -/
def bracesFor (t : Text) : Text :=
  t.map fun c => if c = '‹' then '\x7b' else if c = '›' then '\x7d' else c

namespace Classic

/-- The lines of the body. -/
def lines : List String := [
  "\\documentclass[letterpaper,11pt]‹article›",
  "",
  "\\usepackage[empty]‹fullpage›",
  "\\usepackage‹titlesec›",
  "\\usepackage‹enumitem›",
  "\\usepackage[hidelinks]‹hyperref›",
  "\\usepackage[english]‹babel›",
  "\\usepackage‹tabularx›",
  "",
  "\\pagestyle‹empty›",
  "\\raggedbottom",
  "\\raggedright",
  "\\setlength‹\\tabcolsep›‹0in›",
  "\\addtolength‹\\oddsidemargin›‹-0.5in›",
  "\\addtolength‹\\textwidth›‹1in›",
  "\\addtolength‹\\topmargin›‹-.5in›",
  "\\addtolength‹\\textheight›‹1.0in›",
  "",
  "\\titleformat‹\\section›‹\\vspace‹-4pt›\\scshape\\raggedright\\large›‹›‹0em›‹›[\\titlerule \\vspace‹-5pt›]",
  "",
  "\\newcommand‹\\resumeItem›[1]‹\\item\\small‹#1 \\vspace‹-2pt›››",
  "\\newcommand‹\\resumeSubheading›[4]‹",
  "  \\vspace‹-2pt›\\item",
  "    \\begin‹tabular*›‹0.97\\textwidth›[t]‹l@‹\\extracolsep‹\\fill››r›",
  "      \\textbf‹#1› & #2 \\\\",
  "      \\textit‹\\small#3› & \\textit‹\\small #4› \\\\",
  "    \\end‹tabular*›\\vspace‹-7pt›",
  "›",
  "\\newcommand‹\\resumeProjectHeading›[2]‹",
  "    \\item",
  "    \\begin‹tabular*›‹0.97\\textwidth›‹l@‹\\extracolsep‹\\fill››r›",
  "      \\small#1 & #2 \\\\",
  "    \\end‹tabular*›\\vspace‹-7pt›",
  "›",
  "\\newcommand‹\\resumeSubHeadingListStart›‹\\begin‹itemize›[leftmargin=0.15in, label=‹›]›",
  "\\newcommand‹\\resumeSubHeadingListEnd›‹\\end‹itemize››",
  "\\newcommand‹\\resumeItemListStart›‹\\begin‹itemize››",
  "\\newcommand‹\\resumeItemListEnd›‹\\end‹itemize›\\vspace‹-5pt››",
  "",
  "\\begin‹document›",
  "",
  "\\begin‹center›",
  "    \\textbf‹\\Huge \\scshape ‹‹ full_name ››› \\\\ \\vspace‹1pt›",
  "    \\small ‹‹ location ›› $|$ ‹‹ phone ›› $|$ \\href‹mailto:‹‹ email ›››‹ ‹‹ email ›› › $|$",
  "    \\href‹ ‹‹ website ›› ›‹ ‹‹ website_display ›› ›",
  "\\end‹center›",
  "",
  "\\section‹Summary›",
  "\\small‹ ‹‹ summary ›› ›",
  "",
  "\\section‹Education›",
  "  \\resumeSubHeadingListStart",
  "‹‹#each education››",
  "    \\resumeSubheading",
  "      ‹ ‹‹ institute ›› ›‹ ‹‹ location ›› ›",
  "      ‹ ‹‹ degree ›› ›‹ ‹‹ year ›› ›",
  "‹‹#each coursework_items››",
  "      \\resumeItemListStart",
  "        \\resumeItem‹Relevant coursework: ‹‹ this ›››",
  "      \\resumeItemListEnd",
  "‹‹/each››",
  "‹‹/each››",
  "  \\resumeSubHeadingListEnd",
  "",
  "\\section‹Experience›",
  "  \\resumeSubHeadingListStart",
  "‹‹#each experience››",
  "    \\resumeSubheading",
  "      ‹ ‹‹ role ›› ›‹ ‹‹ duration ›› ›",
  "      ‹ ‹‹ company ›› ›‹ ‹‹ location ›› ›",
  "      \\resumeItemListStart",
  "‹‹#each points››",
  "        \\resumeItem‹ ‹‹ this ›› ›",
  "‹‹/each››",
  "      \\resumeItemListEnd",
  "‹‹/each››",
  "  \\resumeSubHeadingListEnd",
  "",
  "\\section‹Projects›",
  "  \\resumeSubHeadingListStart",
  "‹‹#each projects››",
  "    \\resumeProjectHeading",
  "      ‹\\textbf‹ ‹‹ name ›› ››‹ ‹‹ date ›› ›",
  "      \\resumeItemListStart",
  "‹‹#each points››",
  "        \\resumeItem‹ ‹‹ this ›› ›",
  "‹‹/each››",
  "      \\resumeItemListEnd",
  "‹‹/each››",
  "  \\resumeSubHeadingListEnd",
  "",
  "\\section‹Skills›",
  " \\begin‹itemize›[leftmargin=0.15in, label=‹›]",
  "    \\small‹\\item‹",
  "     \\textbf‹Expert›‹: ‹‹ skills_expert ›› › \\\\",
  "     \\textbf‹Proficient›‹: ‹‹ skills_proficient ›› › \\\\",
  "     \\textbf‹Familiar›‹: ‹‹ skills_familiar ›› › \\\\",
  "     \\textbf‹Languages›‹: ‹‹ languages ›› ›",
  "    ››",
  " \\end‹itemize›",
  "",
  "\\end‹document›",
  ""]

def body : Text := bracesFor (Text.join ['\n'] (lines.map String.toList))

def schemaLines : List String := [
  "name: Classic Resume",
  "fields:",
  "  - name: full_name",
  "    label: Full name",
  "    type: text",
  "    required: true",
  "  - name: location",
  "    label: Location",
  "    type: text",
  "  - name: phone",
  "    label: Phone",
  "    type: text",
  "  - name: email",
  "    label: Email",
  "    type: text",
  "    required: true",
  "  - name: website",
  "    label: Website URL",
  "    type: text",
  "  - name: website_display",
  "    label: Website label",
  "    type: text",
  "  - name: summary",
  "    label: Summary",
  "    type: textarea",
  "  - name: edu_institute",
  "    label: Institute",
  "    type: text",
  "  - name: edu_location",
  "    label: Institute location",
  "    type: text",
  "  - name: edu_degree",
  "    label: Degree",
  "    type: text",
  "  - name: edu_year",
  "    label: Graduation year",
  "    type: text",
  "  - name: edu_coursework",
  "    label: Relevant coursework",
  "    type: textarea",
  "  - name: experience",
  "    label: Work experience",
  "    type: repeatable",
  "    sub_fields:",
  "      - name: company",
  "        label: Company",
  "        type: text",
  "        required: true",
  "      - name: location",
  "        label: Location",
  "        type: text",
  "      - name: role",
  "        label: Role",
  "        type: text",
  "        required: true",
  "      - name: duration",
  "        label: Duration",
  "        type: text",
  "      - name: points",
  "        label: Highlights",
  "        type: list",
  "  - name: projects",
  "    label: Projects",
  "    type: repeatable",
  "    sub_fields:",
  "      - name: name",
  "        label: Project name",
  "        type: text",
  "        required: true",
  "      - name: date",
  "        label: Date",
  "        type: text",
  "      - name: points",
  "        label: Highlights",
  "        type: list",
  "  - name: skills_expert",
  "    label: Expert skills",
  "    type: text",
  "  - name: skills_proficient",
  "    label: Proficient skills",
  "    type: text",
  "  - name: skills_familiar",
  "    label: Familiar skills",
  "    type: text",
  "  - name: languages",
  "    label: Languages",
  "    type: text",
  ""]

def schema : Text := Text.join ['\n'] (schemaLines.map String.toList)

/-- A field of the form that is a single value. -/
private def singleField (name label : Text) (type : FieldType) (required : Bool) : FieldSpec :=
  ⟨name, label, type, required, none⟩

/-- A group of fields that may be repeated. -/
private def groupField (name label : Text) (fields : List FieldSpec) : FieldSpec :=
  ⟨name, label, .repeatable, false, some fields⟩

def fields : List FieldSpec := [
  singleField "full_name" "Full name" .text true,
  singleField "location" "Location" .text false,
  singleField "phone" "Phone" .text false,
  singleField "email" "Email" .text true,
  singleField "website" "Website URL" .text false,
  singleField "website_display" "Website label" .text false,
  singleField "summary" "Summary" .textarea false,
  singleField "edu_institute" "Institute" .text false,
  singleField "edu_location" "Institute location" .text false,
  singleField "edu_degree" "Degree" .text false,
  singleField "edu_year" "Graduation year" .text false,
  singleField "edu_coursework" "Relevant coursework" .textarea false,
  groupField "experience" "Work experience" [
    singleField "company" "Company" .text true,
    singleField "location" "Location" .text false,
    singleField "role" "Role" .text true,
    singleField "duration" "Duration" .text false,
    singleField "points" "Highlights" .list false],
  groupField "projects" "Projects" [
    singleField "name" "Project name" .text true,
    singleField "date" "Date" .text false,
    singleField "points" "Highlights" .list false],
  singleField "skills_expert" "Expert skills" .text false,
  singleField "skills_proficient" "Proficient skills" .text false,
  singleField "skills_familiar" "Familiar skills" .text false,
  singleField "languages" "Languages" .text false]

def id : TemplateId := ⟨"classic", by decide⟩

def template : Template := ⟨⟨id, "Classic Resume", fields⟩, body⟩

end Classic

namespace Registry

/-- The registry of the built-in template. -/
def builtIn : Registry := ⟨[Classic.template]⟩

/-- The built-in template overlaid with the templates of a directory, if there is one. -/
def loadBy (read : SchemaReader) (view : FileView) (dir : Option Text) :
    Except RegistryError Registry × List Warning :=
  builtIn.overlay read view dir

def load (view : FileView) (dir : Option Text) : Except RegistryError Registry × List Warning :=
  loadBy Descriptor.parse? view dir

end Registry

end Curriculum
