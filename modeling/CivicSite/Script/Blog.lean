import CivicSite.Script.Code

/-!
# The script of websites with a blog

The newest posts on the first page, the listing with search and page buttons, and the page of
one post. The listing searches and turns pages by the same rules as `Post.search` and
`Listing.paginate`. Where the backend cannot be reached, the posts are those that were published
with the site.
-/

namespace CivicSite.Script

/-- Cuts a text off, as `CivicSite.teaser` does. -/
def truncate : List Code := [
  .block "function truncate(text, limit) " [
    "const value = String(text == null ? '' : text);",
    "return value.length > limit ? value.slice(0, limit).trimEnd() + '...' : value;"] ""]

/-- The date as readers see it. -/
def formatDate : List Code := [
  .block "function formatDate(value) " [
    "const date = new Date(value);",
    .block "if (isNaN(date.getTime())) " [
      "return '';"] "",
    .block "return date.toLocaleDateString('ro-RO', " [
      "year: 'numeric',",
      "month: 'long',",
      "day: 'numeric'"] ");"] ""]

def sortNewestFirst : List Code := [
  .block "function sortNewestFirst(posts) " [
    .block "return posts.slice().sort(function(a, b) " [
      "return new Date(b.date) - new Date(a.date);"] ");"] ""]

/-- A post as a card. -/
def renderTeaser : List Code := [
  .block "function renderTeaser(post) " [
    "const postId = post._id || post.id || '';",
    "return `",
    .deeper [
      "<article class=\"blog-post\">",
      .deeper [
        "<div class=\"blog-post-date\">$\x7bescapeHtml(formatDate(post.date))\x7d</div>",
        "<h3>$\x7bescapeHtml(post.title)\x7d</h3>",
        "<p class=\"blog-post-description\">$\x7bescapeHtml(post.description)\x7d</p>",
        .line ("<p class=\"blog-post-content\">"
          ++ "$\x7bescapeHtml(truncate(post.content, TEASER_LENGTH))\x7d</p>"),
        .line ("<a class=\"blog-post-link\" "
          ++ "href=\"post.html?id=$\x7bencodeURIComponent(postId)\x7d\">Citește mai mult</a>")],
      "</article>`;"]] ""]

/-- All posts of the settlement, from the backend. -/
def fetchPosts : List Code := [
  .block "async function fetchPosts() " [
    .line ("const response = await fetch(`$\x7bAPI_URL\x7d/blog-posts"
      ++ "?settlement=$\x7bencodeURIComponent(SETTLEMENT_ID)\x7d`);"),
    .block "if (!response.ok) " [
      "throw new Error('HTTP ' + response.status);"] "",
    "const payload = await response.json();",
    "const posts = payload && payload.data && payload.data.data;",
    .block "if (!Array.isArray(posts)) " [
      "throw new Error('Unexpected response shape');"] "",
    "return sortNewestFirst(posts);"] ""]

/-- Puts the newest posts on the first page. -/
def loadBlogTeasers : List Code := [
  "// Index page: the newest posts only",
  .block "async function loadBlogTeasers(container) " [
    .twoBlocks "try " [
      "const posts = await fetchPosts();",
      "",
      .block "if (posts.length === 0) " [
        "container.innerHTML = '<p class=\"blog-empty\">Nu există postări încă.</p>';",
        "return;"] "",
      "",
      "container.innerHTML = posts.slice(0, TEASER_COUNT).map(renderTeaser).join('');"]
    " catch (error) " [
      "console.error('Error loading blog posts:', error);",
      .line ("container.innerHTML = '<p class=\"blog-error\">"
        ++ "Eroare la încărcarea postărilor.</p>';")] ""] ""]

/-- What the listing page remembers. -/
def blogState : List Code := [
  "// Blog page: search and pagination over every post",
  .block "const blogState = " [
    "allPosts: [],",
    "filteredPosts: [],",
    "currentPage: 1"] ";"]

/-- The posts as they were published, read from the cards. -/
def readSnapshotPosts : List Code := [
  .block "function readSnapshotPosts(grid) " [
    .block "return Array.prototype.map.call(grid.querySelectorAll('.blog-post'), function(card) " [
      .block "return " [
        "_id: card.dataset.postId,",
        "date: card.dataset.date,",
        "title: card.dataset.title,",
        "description: card.dataset.description,",
        "content: card.dataset.content"] ";"] ");"] ""]

def pageCount : List Code := [
  .block "function pageCount() " [
    "return Math.max(1, Math.ceil(blogState.filteredPosts.length / PAGE_SIZE));"] ""]

/-- Searches the posts, as `CivicSite.Post.search` does. -/
def applySearch : List Code := [
  .block "function applySearch(query) " [
    "const needle = String(query || '').trim().toLowerCase();",
    "",
    "blogState.filteredPosts = needle",
    .deeper [
      .block "? blogState.allPosts.filter(function(post) " [
        .block "return [post.title, post.description, post.content].some(function(field) " [
          "return String(field == null ? '' : field).toLowerCase().includes(needle);"] ");"] ")",
      ": blogState.allPosts.slice();"],
    "blogState.currentPage = 1;",
    "renderBlogPage();"] ""]

def goToPage : List Code := [
  .block "function goToPage(page) " [
    "blogState.currentPage = Math.min(Math.max(1, page), pageCount());",
    "renderBlogPage();"] ""]

def renderBlogPage : List Code := [
  .block "function renderBlogPage() " [
    "const grid = document.getElementById('blog-posts-grid');",
    "const start = (blogState.currentPage - 1) * PAGE_SIZE;",
    "const visible = blogState.filteredPosts.slice(start, start + PAGE_SIZE);",
    "",
    "grid.innerHTML = visible.length",
    .deeper [
      "? visible.map(renderTeaser).join('')",
      ": '<p class=\"blog-empty\">Nicio postare găsită.</p>';"],
    "renderPagination();"] ""]

/-- Shows the page buttons of the listing. -/
def renderPagination : List Code := [
  .block "function renderPagination() " [
    "const controls = document.getElementById('blog-pagination');",
    .block "if (!controls) " [
      "return;"] "",
    "",
    "const total = pageCount();",
    "const current = blogState.currentPage;",
    "const numbered = Math.ceil(blogState.filteredPosts.length / PAGE_SIZE);",
    .line ("let markup = `<button type=\"button\" class=\"page-btn page-prev\" "
      ++ "data-page=\"$\x7bcurrent - 1\x7d\""
      ++ "$\x7bcurrent === 1 ? ' disabled' : ''\x7d>&lsaquo; Înapoi</button>`;"),
    "",
    .block "for (let page = 1; page <= numbered; page++) " [
      .line ("markup += `<button type=\"button\" "
        ++ "class=\"page-btn page-number$\x7bpage === current ? ' active' : ''\x7d\" "
        ++ "data-page=\"$\x7bpage\x7d\">$\x7bpage\x7d</button>`;")] "",
    "",
    .line ("markup += `<button type=\"button\" class=\"page-btn page-next\" "
      ++ "data-page=\"$\x7bcurrent + 1\x7d\""
      ++ "$\x7bcurrent === total ? ' disabled' : ''\x7d>Înainte &rsaquo;</button>`;"),
    "controls.innerHTML = markup;"] ""]

def initBlogPage : List Code := [
  .block "async function initBlogPage(grid) " [
    "const snapshot = readSnapshotPosts(grid);",
    "const search = document.getElementById('blog-search');",
    "const controls = document.getElementById('blog-pagination');",
    "",
    .twoBlocks "try " [
      "blogState.allPosts = await fetchPosts();"] " catch (error) " [
      "console.error('Error loading blog posts, showing the published copy:', error);",
      "blogState.allPosts = snapshot;"] "",
    "",
    .block "if (controls) " [
      .block "controls.addEventListener('click', function(e) " [
        "const button = e.target.closest('button[data-page]');",
        .block "if (!button || button.disabled) " [
          "return;"] "",
        "goToPage(Number(button.dataset.page));",
        "grid.scrollIntoView(\x7b behavior: 'smooth', block: 'start' \x7d);"] ");"] "",
    "",
    .block "if (search) " [
      .block "search.addEventListener('input', function() " [
        "applySearch(search.value);"] ");"] "",
    "",
    "applySearch(search ? search.value : '');"] ""]

/-- One post, from the backend. -/
def fetchPost : List Code := [
  "// Post page: the live post named in ?id=, the published copy when offline",
  .block "async function fetchPost(postId) " [
    .line ("const response = await fetch(`$\x7bAPI_URL\x7d/blog-posts/"
      ++ "$\x7bencodeURIComponent(postId)\x7d`);"),
    .block "if (response.status === 404) " [
      "return null;"] "",
    .block "if (!response.ok) " [
      "throw new Error('HTTP ' + response.status);"] "",
    "const payload = await response.json();",
    "const post = payload && payload.data && payload.data.data;",
    .block "if (!post || typeof post !== 'object') " [
      "throw new Error('Unexpected response shape');"] "",
    "return post;"] ""]

/-- One post as it was published. -/
def readSnapshotPost : List Code := [
  .block "function readSnapshotPost(postId) " [
    "const snapshots = document.querySelectorAll('template.post-snapshot');",
    .block "for (let i = 0; i < snapshots.length; i++) " [
      .block "if (snapshots[i].dataset.postId === postId) " [
        .block "return " [
          "_id: postId,",
          "date: snapshots[i].dataset.date,",
          "title: snapshots[i].dataset.title,",
          "description: snapshots[i].dataset.description,",
          "content: snapshots[i].innerHTML"] ";"] ""] "",
    "return null;"] ""]

def showPost : List Code := [
  .block "function showPost(article, post) " [
    "article.querySelector('.post-date').textContent = formatDate(post.date);",
    "article.querySelector('.post-title').textContent = post.title || '';",
    "article.querySelector('.post-description').textContent = post.description || '';",
    "article.querySelector('.post-content').innerHTML = post.content || '';",
    "article.hidden = false;",
    "document.title = (post.title || '') + ' - ' + SETTLEMENT_NAME;"] ""]

def initPostPage : List Code := [
  .block "async function initPostPage(article) " [
    "const postId = new URLSearchParams(window.location.search).get('id');",
    "const loading = document.getElementById('post-loading');",
    "const missing = document.getElementById('post-missing');",
    "let post = null;",
    "",
    .block "if (postId) " [
      .twoBlocks "try " [
        "post = await fetchPost(postId);"] " catch (error) " [
        "console.error('Error loading the post, showing the published copy:', error);",
        "post = readSnapshotPost(postId);"] ""] "",
    "",
    .block "if (loading) " [
      "loading.hidden = true;"] "",
    .twoBlocks "if (post) " [
      "showPost(article, post);"] " else if (missing) " [
      "missing.hidden = false;"] ""] ""]

def blogFunctions : List (List Code) :=
  [truncate, formatDate, sortNewestFirst, renderTeaser, fetchPosts, loadBlogTeasers, blogState,
    readSnapshotPosts, pageCount, applySearch, goToPage, renderBlogPage, renderPagination,
    initBlogPage, fetchPost, readSnapshotPost, showPost, initPostPage]

end CivicSite.Script
